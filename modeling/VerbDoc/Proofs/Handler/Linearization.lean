import VerbDoc.Handler.Hierarchy
import VerbDoc.Record

/-!
# Lineages of declared classes

The lineage of a class is merged from those of its bases. Main statements: no class comes twice in a
lineage that is merged, nor in one of a declared class, and a class with a single base has the
lineage of that base behind it.
-/
namespace VerbDoc

/-- A run over a list that gets through has given something for each member. -/
theorem map_eq_of_mapM {α β : Type} {f : α → Except Fault β} {as : List α} {bs : List β}
    (hrun : as.mapM f = .ok bs) : as.map f = bs.map .ok := by
  induction as generalizing bs with
  | nil =>
    obtain rfl := Except.ok.inj hrun
    rfl
  | cons a rest ih =>
    rw [List.mapM_cons] at hrun
    obtain ⟨b, hb, hrun⟩ := Record.of_bind_eq_ok hrun
    obtain ⟨more, hmore, hrun⟩ := Record.of_bind_eq_ok hrun
    obtain rfl := Except.ok.inj hrun
    rw [List.map_cons, List.map_cons, hb, ih hmore]

namespace Ancestor

theorem beq_iff (a b : Ancestor) : (a == b) = true ↔ a.identity = b.identity :=
  beq_iff_eq (a := a.identity)

end Ancestor

namespace Lineage

/-- No class comes twice. -/
def IsDistinct (l : Lineage) : Prop := (l.map Ancestor.identity).Nodup

theorem contains_iff {l : Lineage} {c : Ancestor} :
    List.contains l c = true ↔ c.identity ∈ l.map Ancestor.identity := by
  rw [List.contains_iff_exists_mem_beq, List.mem_map]
  simp only [Ancestor.beq_iff]
  exact exists_congr fun d => and_congr_right fun _ => eq_comm

theorem contains_eq_false_iff {l : Lineage} {c : Ancestor} :
    List.contains l c = false ↔ c.identity ∉ l.map Ancestor.identity := by
  rw [← contains_iff, Bool.not_eq_true]

/-! ## Merging -/

/-- What is taken next is in none of the tails. -/
theorem not_mem_tail_of_nextHead? {lists : List Lineage} {head : Ancestor}
    (hnext : nextHead? lists = some head) {l : Lineage} (hl : l ∈ lists) :
    head.identity ∉ l.tail.map Ancestor.identity := by
  unfold nextHead? at hnext
  have hall := List.find?_some hnext
  have hfree := List.all_eq_true.1 hall l hl
  rw [← contains_eq_false_iff]
  simpa using hfree

theorem mem_of_nextHead? {lists : List Lineage} {head : Ancestor}
    (hnext : nextHead? lists = some head) : ∃ l ∈ lists, head ∈ l := by
  obtain ⟨l, hl, hhead⟩ := List.mem_filterMap.1 (List.mem_of_find?_eq_some hnext)
  exact ⟨l, hl, List.mem_of_head? hhead⟩

/-- Once it is taken it is in none of the lists. -/
theorem not_mem_dropHead {head : Ancestor} {l : Lineage}
    (htail : head.identity ∉ l.tail.map Ancestor.identity) :
    head.identity ∉ (dropHead head l).map Ancestor.identity := by
  cases l with
  | nil => simp [dropHead]
  | cons c rest =>
    rw [dropHead]
    split
    · exact htail
    · next hne =>
      rw [Ancestor.beq_iff] at hne
      rw [List.map_cons, List.mem_cons, not_or]
      exact ⟨fun heq => hne heq.symm, htail⟩

theorem dropHead_subset (head : Ancestor) (l : Lineage) : dropHead head l ⊆ l := by
  cases l with
  | nil => simp [dropHead]
  | cons c rest =>
    rw [dropHead]
    split
    · exact List.subset_cons_self c rest
    · exact List.Subset.refl _

/-- What is merged holds no class twice, and only classes of the lists. -/
theorem isDistinct_of_mergeWithin {fuel : Nat} {lists : List Lineage} {l : Lineage}
    (hmerge : mergeWithin fuel lists = some l) :
    l.IsDistinct ∧ ∀ c ∈ l, ∃ list ∈ lists, c ∈ list := by
  induction fuel generalizing lists l with
  | zero =>
    rw [mergeWithin] at hmerge
    split at hmerge
    · obtain rfl := Option.some.inj hmerge
      exact ⟨List.nodup_nil, by simp⟩
    · cases hmerge
  | succ fuel ih =>
    rw [mergeWithin] at hmerge
    split at hmerge
    · obtain rfl := Option.some.inj hmerge
      exact ⟨List.nodup_nil, by simp⟩
    · split at hmerge
      · cases hmerge
      · next head hnext =>
        obtain ⟨rest, hrest, rfl⟩ := Option.map_eq_some_iff.1 hmerge
        obtain ⟨hdistinct, hfrom⟩ := ih hrest
        have hnew : head.identity ∉ rest.map Ancestor.identity := by
          intro hmem
          obtain ⟨c, hc, hsame⟩ := List.mem_map.1 hmem
          obtain ⟨dropped, hdropped, hin⟩ := hfrom c hc
          obtain ⟨list, hlist, rfl⟩ := List.mem_map.1 hdropped
          have hgone := not_mem_dropHead (not_mem_tail_of_nextHead? hnext hlist)
          exact hgone (hsame ▸ List.mem_map_of_mem hin)
        refine ⟨List.nodup_cons.2 ⟨hnew, hdistinct⟩, ?_⟩
        intro c hc
        rcases List.mem_cons.1 hc with rfl | hc
        · exact mem_of_nextHead? hnext
        · obtain ⟨dropped, hdropped, hin⟩ := hfrom c hc
          obtain ⟨list, hlist, rfl⟩ := List.mem_map.1 hdropped
          exact ⟨list, hlist, dropHead_subset head list hin⟩

/-- A list beside empty ones is merged into itself. -/
theorem mergeWithin_single {l : Lineage} (hl : l.IsDistinct) {fuel : Nat}
    (hfuel : l.length ≤ fuel) : mergeWithin fuel [l, []] = some l := by
  induction fuel generalizing l with
  | zero =>
    obtain rfl := List.length_eq_zero_iff.1 (Nat.le_zero.1 hfuel)
    rfl
  | succ fuel ih =>
    cases l with
    | nil => rfl
    | cons c rest =>
      rw [IsDistinct, List.map_cons, List.nodup_cons] at hl
      have hfree := contains_eq_false_iff.2 hl.1
      have hnext : nextHead? [c :: rest, []] = some c := by
        simp [nextHead?, hfree]
      have hrest := ih hl.2 (Nat.le_of_succ_le_succ hfuel)
      have hself := (Ancestor.beq_iff c c).2 rfl
      simp [mergeWithin, hnext, dropHead, hself, hrest]

/-- The lineage of a single base is merged with the base into itself. -/
theorem merge?_single {l : Lineage} (hl : l.IsDistinct) :
    merge? ([l] ++ [[l].filterMap List.head?]) = some l := by
  cases l with
  | nil => rfl
  | cons c rest =>
    rw [IsDistinct, List.map_cons, List.nodup_cons] at hl
    have hfree := contains_eq_false_iff.2 hl.1
    have hself := (Ancestor.beq_iff c c).2 rfl
    have hnext : nextHead? [c :: rest, [c]] = some c := by
      simp [nextHead?, hfree]
    have hrest : mergeWithin (rest.length + 1) [rest, []] = some rest :=
      mergeWithin_single hl.2 (Nat.le_succ _)
    have hfuel : ([c :: rest, [c]] : List Lineage).flatten.length = rest.length + 1 + 1 := by simp
    change mergeWithin ([c :: rest, [c]] : List Lineage).flatten.length [c :: rest, [c]] = _
    rw [hfuel, mergeWithin]
    simp [hnext, dropHead, hself, hrest]

end Lineage

/-! ## Declared classes -/

namespace Ancestor

/-- A class that is derived stays as it is made, unless an ancestor has told it that nothing is
attached. -/
theorem derivedFrom_eq {made self : Ancestor} {ancestors : Lineage}
    (hself : made.derivedFrom ancestors = .ok self) :
    self = made ∨ self = made.detach ∧
      ∃ r, ancestors.attribute? SpecialName.derivation = some (.member (.routine r)) := by
  unfold derivedFrom at hself
  split at hself
  · exact .inl (Except.ok.inj hself).symm
  · exact .inl (Except.ok.inj hself).symm
  · exact .inl (Except.ok.inj hself).symm
  · next r hfound =>
    split at hself
    · cases hself
    · dsimp only at hself
      cases hrun : (Step.runAll (r.receiver.host .absent) r.body).2 with
      | error f => simp [hrun, Except.map] at hself
      | ok o =>
        simp only [hrun, Except.map, Except.ok.injEq] at hself
        rw [← hself]
        split
        · exact .inr ⟨rfl, r, hfound⟩
        · exact .inl rfl
  · cases hself

theorem identity_of_derivedFrom {made self : Ancestor} {ancestors : Lineage}
    (hself : made.derivedFrom ancestors = .ok self) : self.identity = made.identity := by
  rcases derivedFrom_eq hself with rfl | ⟨rfl, -⟩
  · rfl
  · exact made.identity_detach

end Ancestor

theorem ClassDeclaration.identity_of_toAncestor {c : ClassDeclaration} {number : Nat}
    {bases : List Lineage} {made : Ancestor} (hmade : c.toAncestor number bases = .ok made) :
    made.identity = number + 1 := by
  obtain ⟨declared, -, hmade⟩ := Record.of_bind_eq_ok hmade
  obtain ⟨⟨members, opened⟩, -, hmade⟩ := Record.of_bind_eq_ok hmade
  obtain ⟨-, -, hmade⟩ := Record.of_bind_eq_ok hmade
  rw [← Except.ok.inj hmade]
  rfl

namespace Hierarchy

variable {h next : Hierarchy} {c : ClassDeclaration}

/-- A class that is declared comes in front of what the lineages of its bases are merged into. -/
theorem exists_of_declare (hdeclare : h.declare c = .ok next) :
    ∃ bases made ancestors self, c.bases.mapM h.find = .ok bases ∧
      c.toAncestor h.lineages.length bases = .ok made ∧
      Lineage.merge? (bases ++ [bases.filterMap List.head?]) = some ancestors ∧
      made.derivedFrom ancestors = .ok self ∧
      next.lineages = (c.name, self :: ancestors) :: h.lineages := by
  obtain ⟨bases, hbases, hdeclare⟩ := Record.of_bind_eq_ok hdeclare
  obtain ⟨made, hmade, hdeclare⟩ := Record.of_bind_eq_ok hdeclare
  split at hdeclare
  · cases hdeclare
  · next ancestors hmerge =>
    obtain ⟨self, hself, hnext⟩ := Record.of_bind_eq_ok hdeclare
    refine ⟨bases, made, ancestors, self, hbases, hmade, hmerge, hself, ?_⟩
    rw [← Except.ok.inj hnext]

/-- No class comes twice in a lineage, and all of them were declared so far. -/
def IsNumbered (h : Hierarchy) : Prop :=
  ∀ entry ∈ h.lineages, entry.2.IsDistinct ∧ ∀ c ∈ entry.2, c.identity ≤ h.lineages.length

theorem mem_lineages_of_find {name : Text} {l : Lineage} (hfind : h.find name = .ok l) :
    (name, l) ∈ h.lineages := by
  unfold find at hfind
  split at hfind
  · next lineage hlookup =>
    obtain rfl := Except.ok.inj hfind
    obtain ⟨before, after, hsplit, -⟩ := List.lookup_eq_some_iff.1 hlookup
    simp [hsplit]
  · cases hfind

theorem isNumbered_initial : initial.IsNumbered := by
  intro entry hentry
  obtain rfl := List.mem_singleton.1 hentry
  exact ⟨by simp [Lineage.IsDistinct], by simp [Ancestor.identity]⟩

/-- A class that is declared has a number of its own. -/
theorem isNumbered_declare (hn : h.IsNumbered) (hdeclare : h.declare c = .ok next) :
    next.IsNumbered := by
  obtain ⟨bases, made, ancestors, self, hbases, hmade, hmerge, hderived, hnext⟩ :=
    exists_of_declare hdeclare
  have hself : self.identity = h.lineages.length + 1 := by
    rw [Ancestor.identity_of_derivedFrom hderived, ClassDeclaration.identity_of_toAncestor hmade]
  obtain ⟨hdistinct, hfrom⟩ := Lineage.isDistinct_of_mergeWithin hmerge
  have hlength : next.lineages.length = h.lineages.length + 1 := by rw [hnext, List.length_cons]
  have hbase : ∀ base ∈ bases, ∀ d ∈ base, d.identity ≤ h.lineages.length := by
    intro base hmem d hd
    have hok : Except.ok base ∈ c.bases.map h.find := by
      rw [map_eq_of_mapM hbases]
      exact List.mem_map_of_mem hmem
    obtain ⟨name, -, hfind⟩ := List.mem_map.1 hok
    exact (hn _ (mem_lineages_of_find hfind)).2 d hd
  have hold : ∀ d ∈ ancestors, d.identity ≤ h.lineages.length := by
    intro d hd
    obtain ⟨list, hlist, hin⟩ := hfrom d hd
    rcases List.mem_append.1 hlist with hlist | hlist
    · exact hbase list hlist d hin
    · -- The list of the bases themselves holds their first classes.
      obtain rfl := List.mem_singleton.1 hlist
      obtain ⟨base, hmem, hhead⟩ := List.mem_filterMap.1 hin
      exact hbase base hmem d (List.mem_of_head? hhead)
  intro entry hentry
  rw [hnext, List.mem_cons] at hentry
  rcases hentry with rfl | hentry
  · refine ⟨List.nodup_cons.2 ⟨?_, hdistinct⟩, ?_⟩
    · intro hmem
      obtain ⟨d, hd, hsame⟩ := List.mem_map.1 hmem
      have hle := hold d hd
      omega
    · intro d hd
      rcases List.mem_cons.1 hd with rfl | hd
      · omega
      · have hle := hold d hd
        omega
  · obtain ⟨hold, hle⟩ := hn entry hentry
    refine ⟨hold, ?_⟩
    intro d hd
    have hle := hle d hd
    omega

theorem isNumbered_declareAll {cs : List ClassDeclaration} (hn : h.IsNumbered)
    (hdeclare : h.declareAll cs = .ok next) : next.IsNumbered := by
  induction cs generalizing h with
  | nil =>
    obtain rfl := Except.ok.inj hdeclare
    exact hn
  | cons c rest ih =>
    rw [declareAll, List.foldlM_cons] at hdeclare
    obtain ⟨after, hafter, hdeclare⟩ := Record.of_bind_eq_ok hdeclare
    exact ih (isNumbered_declare hn hafter) hdeclare

/-- A class with a single base has the lineage of that base behind it. -/
theorem exists_find_of_single_base (hn : h.IsNumbered) (hdeclare : h.declare c = .ok next)
    {base : Text} (hbase : c.bases = [base]) :
    ∃ made self inherited, h.find base = .ok inherited ∧
      c.toAncestor h.lineages.length [inherited] = .ok made ∧
      made.derivedFrom inherited = .ok self ∧ next.find c.name = .ok (self :: inherited) := by
  obtain ⟨bases, made, ancestors, self, hbases, hmade, hmerge, hself, hnext⟩ :=
    exists_of_declare hdeclare
  rw [hbase] at hbases
  have hmap := map_eq_of_mapM hbases
  obtain ⟨inherited, rfl⟩ : ∃ inherited, bases = [inherited] := by
    have hlength := congrArg List.length hmap
    rw [List.length_map, List.length_map] at hlength
    exact List.length_eq_one_iff.1 hlength.symm
  have hfind : h.find base = .ok inherited := by simpa using hmap
  rw [Lineage.merge?_single (hn _ (mem_lineages_of_find hfind)).1] at hmerge
  obtain rfl := Option.some.inj hmerge
  exact ⟨made, self, inherited, hfind, hmade, hself, by simp [find, hnext]⟩

end Hierarchy
end VerbDoc
