import VerbDoc.Proofs.Handler.Discovery
import VerbDoc.Proofs.Handler.Linearization
import VerbDoc.Proofs.OrderedMap

/-!
# The routines of a declared class

A class is declared with members under names, some of which may be repeated. Main statement: the
operations that the class itself has are the routines that were declared, each name at the place
where it is first mentioned and with what is said of it last.
-/
namespace VerbDoc

/-- What makes nothing may be left out. -/
theorem filterMap_filter_of_eq_none {α β : Type} {p : α → Bool} {f : α → Option β} {as : List α}
    (hnone : ∀ a ∈ as, p a = false → f a = none) : (as.filter p).filterMap f = as.filterMap f := by
  induction as with
  | nil => rfl
  | cons a rest ih =>
    have hrest := ih fun a' ha' => hnone a' (List.mem_cons_of_mem _ ha')
    cases hp : p a with
    | true => rw [List.filter_cons_of_pos hp, List.filterMap_cons, List.filterMap_cons, hrest]
    | false =>
      rw [List.filter_cons_of_neg (by simp [hp]), hrest, List.filterMap_cons,
        hnone a List.mem_cons_self hp]

namespace Slots

/-- Places come after the members of a class and leave those as they are. -/
theorem entries_of_foldlM_place {className : Text} {members placed : OrderedMap Text Member}
    {names : List Text}
    (hplace : names.foldlM (fun ms name => place className ms members.keys name) members =
      .ok placed) :
    ∃ slots, placed.entries = members.entries ++ slots ∧ ∀ e ∈ slots, e.2 = Member.slot := by
  have hfold : ∀ (ms : OrderedMap Text Member) (slots : List (Text × Member)),
      ms.entries = members.entries ++ slots → (∀ e ∈ slots, e.2 = Member.slot) →
      names.foldlM (fun ms name => place className ms members.keys name) ms = .ok placed →
      ∃ slots, placed.entries = members.entries ++ slots ∧ ∀ e ∈ slots, e.2 = Member.slot := by
    clear hplace
    induction names with
    | nil =>
      intro ms slots hentries hslots hrun
      obtain rfl := Except.ok.inj hrun
      exact ⟨slots, hentries, hslots⟩
    | cons name rest ih =>
      intro ms slots hentries hslots hrun
      rw [List.foldlM_cons] at hrun
      obtain ⟨after, hafter, hrun⟩ := Record.of_bind_eq_ok hrun
      unfold place at hafter
      dsimp only at hafter
      split at hafter
      · obtain rfl := Except.ok.inj hafter
        exact ih _ slots hentries hslots hrun
      · split at hafter
        · cases hafter
        · next hfree =>
          obtain rfl := Except.ok.inj hafter
          have hnew : attributeName className name ∉ members.entries.map Prod.fst := by
            simpa [OrderedMap.keys] using hfree
          refine ih _ (OrderedMap.put (attributeName className name) .slot slots) ?_ ?_ hrun
          · refine (congrArg (OrderedMap.put _ _) hentries).trans ?_
            exact OrderedMap.put_append_of_not_mem hnew _ slots
          · intro e he
            rcases OrderedMap.mem_put he with rfl | he
            · rfl
            · exact hslots e he
  exact hfold members [] (List.append_nil _).symm (by simp) hplace

theorem entries_of_complete {className : Text} {bases : List Lineage}
    {members placed : OrderedMap Text Member} {opened : List Text}
    (hcomplete : complete className bases members = .ok (placed, opened)) :
    ∃ slots, placed.entries = members.entries ++ slots ∧ ∀ e ∈ slots, e.2 = Member.slot := by
  unfold complete at hcomplete
  split at hcomplete
  · cases hcomplete
  · split at hcomplete
    · cases hcomplete
    · obtain ⟨rfl, -⟩ := Prod.mk.inj (Except.ok.inj hcomplete)
      exact ⟨[], (List.append_nil _).symm, by simp⟩
    · next names _ =>
      split at hcomplete
      · cases hcomplete
      · obtain ⟨made, hplace, heq⟩ := Record.of_map_eq_ok hcomplete
        obtain ⟨rfl, -⟩ := Prod.mk.inj heq
        exact entries_of_foldlM_place hplace

end Slots

def Member.operation? (owner name : Text) (m : Member) : Option Operation :=
  (Attribute.member m).routine?.map fun r => ⟨name, owner, r⟩

namespace Ancestor

/-- The operations of a declared class are among its members. -/
theorem ownOperations_declared (d : DeclaredClass) :
    Lineage.ownOperations [] (.declared d) =
      d.members.entries.filterMap fun e => e.2.operation? d.name e.1 := by
  have hnone : ∀ es : List (Text × Attribute), (∀ e ∈ es, e.2.routine? = none) →
      (es.filterMap fun e => e.2.routine?.map fun r => (⟨e.1, d.name, r⟩ : Operation)) = [] := by
    intro es hes
    rw [List.filterMap_eq_nil_iff]
    intro e he
    rw [hes e he]
    rfl
  have himplied := hnone (d.implied.map fun name => (name, .implied)) (by
    intro e he
    obtain ⟨name, _, rfl⟩ := List.mem_map.1 he
    rfl)
  have hrecord := hnone (if d.later.contains SpecialName.types then [typeRecord] else []) (by
    intro e he
    split at he
    · rw [List.mem_singleton.1 he]
      rfl
    · simp at he)
  rw [ownOperations_eq]
  change (_ ++ _ ++ _ : List (Text × Attribute)).filterMap
    (fun e => e.2.routine?.map fun r => (⟨e.1, d.name, r⟩ : Operation)) = _
  rw [List.filterMap_append, List.filterMap_append, himplied, hrecord, List.append_nil,
    List.append_nil, List.filterMap_map]
  rfl

/-- A class that is told that nothing is attached loses what it declares in the place of that. -/
theorem ownOperations_detach (c : Ancestor) :
    Lineage.ownOperations [] c.detach =
      (Lineage.ownOperations [] c).filter fun o => o.name != Attached.name := by
  cases c with
  | base => rfl
  | declared d =>
    have hpart : (fun e : Text × Member => if e.1 != Attached.name then
        e.2.operation? d.name e.1 else none) =
        fun e => (e.2.operation? d.name e.1).filter fun o => o.name != Attached.name := by
      funext e
      unfold Member.operation?
      cases (Attribute.member e.2).routine? <;> simp [Option.filter]
    have hnull : ∀ e ∈ OrderedMap.put Attached.name (Member.value .null) d.members.entries,
        (e.1 != Attached.name) = false → e.2.operation? d.name e.1 = none := by
      intro e he hname
      have hfound := OrderedMap.find_eq_of_mem
        (d.members.insert Attached.name (.value .null)).nodup_keys he
      have hvalue := d.members.get?_insert_self Attached.name (.value .null)
      rw [bne_eq_false_iff_eq] at hname
      rw [hname] at hfound
      rw [Option.some.inj (hfound.symm.trans hvalue)]
      rfl
    calc Lineage.ownOperations [] (detach (.declared d))
        = (OrderedMap.put Attached.name (Member.value .null) d.members.entries).filterMap
            fun e => e.2.operation? d.name e.1 := ownOperations_declared _
      _ = ((OrderedMap.put Attached.name (Member.value .null) d.members.entries).filter
            fun e => e.1 != Attached.name).filterMap fun e => e.2.operation? d.name e.1 :=
          (filterMap_filter_of_eq_none hnull).symm
      _ = (d.members.entries.filter fun e => e.1 != Attached.name).filterMap
            fun e => e.2.operation? d.name e.1 := by
          rw [OrderedMap.filter_put_of_neg (p := fun name => name != Attached.name) (by simp)]
      _ = _ := by
          rw [ownOperations_declared, List.filter_filterMap, List.filterMap_filter, hpart]

end Ancestor

namespace ClassDeclaration

/-- What is said of each name, in the order of mention. -/
def mentions (c : ClassDeclaration) : List (Text × Except Fault Member) :=
  c.members.map fun m => (m.name, m.check)

/-- The routine that is declared under a name, if what is said of the name last is one. -/
def routine? (c : ClassDeclaration) (name : Text) : Option Routine :=
  match OrderedMap.find name c.mentions.reverse with
  | some (.ok member) => (Attribute.member (placed name member)).routine?
  | some (.error _) | none => none

def operations (c : ClassDeclaration) : List Operation :=
  (OrderedMap.distinct (c.mentions.map Prod.fst)).filterMap fun name =>
    (c.routine? name).map fun r => ⟨name, c.name, r⟩

variable {c : ClassDeclaration} {declared : OrderedMap Text Member}

theorem mentions_of_mapM {ms : List MemberDeclaration} {es : List (Text × Member)}
    (hrun : (ms.mapM fun (m : MemberDeclaration) => m.check.map fun member => (m.name, member)) =
      .ok es) :
    (ms.map fun m => (m.name, m.check)) = es.map fun e => (e.1, .ok e.2) := by
  induction ms generalizing es with
  | nil =>
    obtain rfl := Except.ok.inj hrun
    rfl
  | cons m rest ih =>
    rw [List.mapM_cons] at hrun
    obtain ⟨e, he, hrun⟩ := Record.of_bind_eq_ok hrun
    obtain ⟨more, hmore, hrun⟩ := Record.of_bind_eq_ok hrun
    obtain rfl := Except.ok.inj hrun
    obtain ⟨member, hcheck, rfl⟩ := Record.of_map_eq_ok he
    rw [List.map_cons, List.map_cons, hcheck, ih hmore]

theorem keys_of_checkedMembers (hchecked : c.checkedMembers = .ok declared) :
    declared.keys = OrderedMap.distinct (c.mentions.map Prod.fst) := by
  obtain ⟨es, hrun, rfl⟩ := Record.of_map_eq_ok hchecked
  rw [OrderedMap.keys_ofList, mentions, mentions_of_mapM hrun, List.map_map]
  rfl

theorem routine?_of_checkedMembers (hchecked : c.checkedMembers = .ok declared) (name : Text) :
    c.routine? name =
      (declared.get? name).bind fun m => (Attribute.member (placed name m)).routine? := by
  obtain ⟨es, hrun, rfl⟩ := Record.of_map_eq_ok hchecked
  rw [routine?, mentions, mentions_of_mapM hrun, ← List.map_reverse, OrderedMap.find_map_values,
    OrderedMap.get?_ofList]
  cases OrderedMap.find name es.reverse <;> rfl

/-- What a class does not keep among its members is no routine. -/
theorem routine?_eq_none_of_checkNames (hnames : c.checkNames declared = .ok ()) {name : Text}
    {member : Member} (hfound : declared.get? name = some member)
    (hdropped : name = qualifiedName ∨ name = bodyCell) :
    (Attribute.member (placed name member)).routine? = none := by
  obtain ⟨-, -, hnames⟩ := Record.of_bind_eq_ok hnames
  rcases hdropped with rfl | rfl
  · rw [hfound] at hnames
    cases member with
    | routine r => cases hnames
    | _ => rfl
  · have hcell : declared.contains bodyCell = true := by
      rw [OrderedMap.contains, hfound]
      rfl
    rw [hcell] at hnames
    split at hnames <;> cases hnames

def operation? (owner : Text) (e : Text × Member) : Option Operation :=
  (placed e.1 e.2).operation? owner e.1

theorem filterMap_operation? (hchecked : c.checkedMembers = .ok declared) :
    declared.entries.filterMap (operation? c.name) = c.operations := by
  -- The entries are the keys, each with what is found under it.
  have hentries := congrArg (List.filterMap fun e : Text × Option Member =>
    e.2.bind fun m => operation? c.name (e.1, m)) declared.map_some_entries
  rw [List.filterMap_map, List.filterMap_map] at hentries
  refine hentries.trans ?_
  rw [operations, ← keys_of_checkedMembers hchecked]
  congr 1
  funext name
  rw [Function.comp_apply, routine?_of_checkedMembers hchecked, Option.map_bind]
  rfl

/-- Nothing is lost with what a class does not keep. -/
theorem filterMap_operation?_kept (hnames : c.checkNames declared = .ok ()) :
    ((declared.erase qualifiedName).erase bodyCell).entries.filterMap (operation? c.name) =
      declared.entries.filterMap (operation? c.name) := by
  simp only [OrderedMap.erase, List.filter_filter]
  apply filterMap_filter_of_eq_none
  intro e he hdropped
  have hfound : declared.get? e.1 = some e.2 := OrderedMap.find_eq_of_mem declared.nodup_keys he
  have hname : e.1 = qualifiedName ∨ e.1 = bodyCell := by
    simp only [Bool.and_eq_false_iff, decide_eq_false_iff_not, Decidable.not_not] at hdropped
    exact hdropped.symm
  rw [operation?, Member.operation?, routine?_eq_none_of_checkNames hnames hfound hname]
  rfl

/-- The operations that a declared class itself has are the routines that were declared. -/
theorem ownOperations_of_toAncestor {number : Nat} {bases : List Lineage} {made : Ancestor}
    (hmade : c.toAncestor number bases = .ok made) :
    Lineage.ownOperations [] made = c.operations := by
  obtain ⟨declared, hchecked, hmade⟩ := Record.of_bind_eq_ok hmade
  obtain ⟨⟨members, opened⟩, hcomplete, hmade⟩ := Record.of_bind_eq_ok hmade
  obtain ⟨⟨⟩, hnames, hmade⟩ := Record.of_bind_eq_ok hmade
  obtain rfl := Except.ok.inj hmade
  obtain ⟨slots, hentries, hslots⟩ := Slots.entries_of_complete hcomplete
  have hnamed : (OrderedMap.ofList (members.entries.map fun e => (e.1, placed e.1 e.2))).entries =
      members.entries.map fun e => (e.1, placed e.1 e.2) := by
    apply OrderedMap.entries_ofList
    rw [List.map_map]
    exact members.nodup_keys
  have hplaces : slots.filterMap (operation? c.name) = [] := by
    rw [List.filterMap_eq_nil_iff]
    intro e he
    rw [operation?, hslots e he]
    rfl
  calc Lineage.ownOperations [] _ = members.entries.filterMap (operation? c.name) := by
        rw [Ancestor.ownOperations_declared, hnamed, List.filterMap_map]
        rfl
    _ = declared.entries.filterMap (operation? c.name) := by
        rw [hentries, List.filterMap_append, hplaces, List.append_nil,
          filterMap_operation?_kept hnames]
    _ = c.operations := filterMap_operation? hchecked

end ClassDeclaration
end VerbDoc
