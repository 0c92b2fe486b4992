import VerbDoc.Proofs.Handler.Declaring

/-!
# Discovery as resolution of names

What a name stands for in a class is said by the first class of the lineage that defines it. Going
through the operations is meant to give the names for which that is a routine, each with that
routine. The names come out so for every class. What comes with them is asked of the class once more
by name, and a few names the class answers itself. Main statements: the names and their order, and
that each comes with its definition exactly where the class answers none of them itself.
-/
namespace VerbDoc

namespace Operation

/-- The names that a class answers itself, whatever is defined under them. -/
def answeredNames : List Text :=
  SpecialName.objectClass :: parentName :: signatureName :: untitledNames

end Operation

namespace Ancestor

def defines (c : Ancestor) (name : Text) : Bool := (OrderedMap.find name c.attributes).isSome

def definedNames (c : Ancestor) : List Text := OrderedMap.distinct (c.attributes.map Prod.fst)

theorem defines_iff {c : Ancestor} {name : Text} :
    c.defines name = true ↔ name ∈ c.attributes.map Prod.fst :=
  OrderedMap.find_isSome_iff c.attributes name

theorem contains_map_fst (c : Ancestor) (name : Text) :
    (c.attributes.map Prod.fst).contains name = c.defines name := by
  rw [Bool.eq_iff_iff, List.contains_iff_mem, defines_iff]

theorem defines_of_routine? {c : Ancestor} {name : Text} {r : Routine}
    (hr : c.routine? name = some r) : c.defines name = true :=
  defines_iff.2 (mem_names_of_routine? hr)

end Ancestor

namespace Lineage

/-! ## What a name stands for -/

def definer? (l : Lineage) (name : Text) : Option Ancestor := l.find? fun c => c.defines name

def distance (l : Lineage) (name : Text) : Nat := l.findIdx fun c => c.defines name

/-- What the first class that defines a name has under it, if that is a routine. -/
def definition? (l : Lineage) (name : Text) : Option Operation :=
  (l.definer? name).bind fun c => (c.routine? name).map fun r => ⟨name, c.name, r⟩

/-- The definition of one name lies in an earlier class than that of the other, or before it in the
same class. -/
def Precedes (l : Lineage) (first second : Text) : Prop :=
  l.distance first < l.distance second ∨
    l.distance first = l.distance second ∧
      ∃ c, l.definer? first = some c ∧ [first, second].Sublist c.definedNames

variable {c : Ancestor} {l : Lineage} {name : Text}

theorem definer?_cons_of_pos (hname : c.defines name = true) :
    definer? (c :: l) name = some c := List.find?_cons_of_pos hname

theorem definer?_cons_of_neg (hname : c.defines name = false) :
    definer? (c :: l) name = l.definer? name :=
  List.find?_cons_of_neg (by simp [hname])

theorem distance_cons_of_pos (hname : c.defines name = true) : distance (c :: l) name = 0 := by
  simp [distance, List.findIdx_cons, hname]

theorem distance_cons_of_neg (hname : c.defines name = false) :
    distance (c :: l) name = l.distance name + 1 := by
  simp [distance, List.findIdx_cons, hname]

theorem owner_of_mem_ownOperations {o : Operation} (ho : o ∈ ownOperations [] c) :
    o.owner = c.name := by
  rw [Ancestor.ownOperations_eq] at ho
  obtain ⟨e, -, hroutine⟩ := List.mem_filterMap.1 ho
  obtain ⟨r, -, rfl⟩ := Option.map_eq_some_iff.1 hroutine
  rfl

/-- Each operation is the definition of its name. -/
theorem definition?_of_mem_operations {o : Operation} (ho : o ∈ l.operations) :
    l.definition? o.name = some o := by
  induction l with
  | nil => simp [operations, operationsBeyond] at ho
  | cons c rest ih =>
    rw [operations_cons, List.mem_append] at ho
    rcases ho with ho | ho
    · have hroutine := Ancestor.routine?_of_mem_ownOperations ho
      rw [definition?, definer?_cons_of_pos (Ancestor.defines_of_routine? hroutine),
        Option.bind_some, hroutine, Option.map_some, ← owner_of_mem_ownOperations ho]
    · obtain ⟨hmem, hnew⟩ := List.mem_filter.1 ho
      have hhere : c.defines o.name = false := by
        simpa only [Ancestor.contains_map_fst, Bool.not_eq_true'] using hnew
      rw [definition?, definer?_cons_of_neg hhere]
      exact ih hmem

theorem exists_operation_of_definition? {o : Operation} (ho : l.definition? name = some o) :
    o ∈ l.operations ∧ o.name = name := by
  induction l with
  | nil => cases ho
  | cons c rest ih =>
    rw [operations_cons, List.mem_append]
    cases hhere : c.defines name with
    | true =>
      rw [definition?, definer?_cons_of_pos hhere, Option.bind_some] at ho
      obtain ⟨r, hr, rfl⟩ := Option.map_eq_some_iff.1 ho
      refine ⟨.inl ?_, rfl⟩
      obtain ⟨a, ha, hroutine⟩ := Option.bind_eq_some_iff.1 hr
      rw [Ancestor.ownOperations_eq, List.mem_filterMap]
      exact ⟨(name, a), OrderedMap.mem_of_find ha, by rw [hroutine]; rfl⟩
    | false =>
      rw [definition?, definer?_cons_of_neg hhere] at ho
      obtain ⟨hmem, rfl⟩ := ih ho
      refine ⟨.inr (List.mem_filter.2 ⟨hmem, ?_⟩), rfl⟩
      rw [Ancestor.contains_map_fst, hhere, Bool.not_false]

/-- The names of the operations are those whose definition is a routine. -/
theorem mem_map_name_operations_iff :
    name ∈ l.operations.map Operation.name ↔ ∃ o, l.definition? name = some o := by
  constructor
  · intro hname
    obtain ⟨o, ho, rfl⟩ := List.mem_map.1 hname
    exact ⟨o, definition?_of_mem_operations ho⟩
  · rintro ⟨o, ho⟩
    obtain ⟨hmem, rfl⟩ := exists_operation_of_definition? ho
    exact List.mem_map_of_mem hmem

theorem nodup_map_name_operations (l : Lineage) : (l.operations.map Operation.name).Nodup := by
  rw [map_name_operations]
  exact l.nodup_routineNames

/-- The operations come as their definitions do. -/
theorem pairwise_precedes (l : Lineage) :
    (l.operations.map Operation.name).Pairwise l.Precedes := by
  induction l with
  | nil => exact List.Pairwise.nil
  | cons c rest ih =>
    have hown : ∀ name ∈ (ownOperations [] c).map Operation.name, c.defines name = true := by
      intro name hname
      obtain ⟨o, ho, rfl⟩ := List.mem_map.1 hname
      exact Ancestor.defines_of_routine? (Ancestor.routine?_of_mem_ownOperations ho)
    have hnew : ∀ name ∈ ((operations rest).filter fun o =>
        !(c.attributes.map Prod.fst).contains o.name).map Operation.name,
        c.defines name = false := by
      intro name hname
      obtain ⟨o, ho, rfl⟩ := List.mem_map.1 hname
      simpa only [Ancestor.contains_map_fst, Bool.not_eq_true'] using (List.mem_filter.1 ho).2
    rw [operations_cons, List.map_append, List.pairwise_append]
    refine ⟨?_, ?_, ?_⟩
    · -- Inside the class the names come as it defines them.
      have hsub : ((ownOperations [] c).map Operation.name).Sublist c.definedNames := by
        rw [c.map_name_ownOperations]
        exact List.filter_sublist
      rw [List.pairwise_iff_forall_sublist]
      intro first second hpair
      have hfirst := hown first (hpair.subset (by simp))
      have hsecond := hown second (hpair.subset (by simp))
      refine .inr ⟨?_, c, definer?_cons_of_pos hfirst, hpair.trans hsub⟩
      rw [distance_cons_of_pos hfirst, distance_cons_of_pos hsecond]
    · refine (ih.sublist (List.filter_sublist.map Operation.name)).imp_of_mem ?_
      intro first second hfirst hsecond hprecedes
      rw [Precedes, distance_cons_of_neg (hnew first hfirst),
        distance_cons_of_neg (hnew second hsecond), definer?_cons_of_neg (hnew first hfirst)]
      rcases hprecedes with hlt | ⟨heq, hsame⟩
      · exact .inl (Nat.succ_lt_succ hlt)
      · exact .inr ⟨congrArg Nat.succ heq, hsame⟩
    · intro first hfirst second hsecond
      refine .inl ?_
      rw [distance_cons_of_pos (hown first hfirst), distance_cons_of_neg (hnew second hsecond)]
      exact Nat.succ_pos _

/-! ## What comes with the names -/

/-- What a class gives for one of its operations, under the name of that, unless it withholds it. -/
def give (l : Lineage) (o : Operation) : Except Fault (Text × Reached) :=
  if l.withholds o then .error .missingAttribute else .ok (o.name, l.reach o)

def given (l : Lineage) : Except Fault (List (Text × Reached)) := l.operations.mapM l.give

theorem given_of_not_withholds (hkept : ∀ o ∈ l.operations, l.withholds o = false) :
    l.given = .ok (l.operations.map fun o => (o.name, l.reach o)) := by
  have hrun : ∀ ops : List Operation, (∀ o ∈ ops, l.withholds o = false) →
      ops.mapM l.give = .ok (ops.map fun o => (o.name, l.reach o)) := by
    intro ops hops
    induction ops with
    | nil => rfl
    | cons o rest ih =>
      rw [List.mapM_cons, give, hops o (by simp), ih fun o' ho' => hops o' (by simp [ho'])]
      rfl
  exact hrun l.operations hkept

theorem of_given {entries : List (Text × Reached)} (hgiven : l.given = .ok entries) :
    entries = (l.operations.map fun o => (o.name, l.reach o)) ∧
      ∀ o ∈ l.operations, l.withholds o = false := by
  have hmap := map_eq_of_mapM hgiven
  have hkept : ∀ o ∈ l.operations, l.withholds o = false := by
    intro o ho
    have hmem := List.mem_map_of_mem (f := l.give) ho
    rw [hmap] at hmem
    obtain ⟨e, -, he⟩ := List.mem_map.1 hmem
    cases hwithheld : l.withholds o with
    | false => rfl
    | true => simp [give, hwithheld] at he
  refine ⟨?_, hkept⟩
  rw [given_of_not_withholds hkept] at hgiven
  exact (Except.ok.inj hgiven).symm

/-- Two steps for each member of a list are one run after the other, as far as they get through. -/
theorem mapM_bind_eq_ok_iff {α β γ : Type} {f : α → Except Fault β} {g : β → Except Fault γ}
    {as : List α} {cs : List γ} :
    (as.mapM fun a => (f a).bind g) = .ok cs ↔
      ∃ bs, as.mapM f = .ok bs ∧ bs.mapM g = .ok cs := by
  induction as generalizing cs with
  | nil => exact ⟨fun h => ⟨[], rfl, h⟩, fun ⟨bs, hbs, h⟩ => by cases hbs; exact h⟩
  | cons a rest ih =>
    constructor
    · intro h
      rw [List.mapM_cons] at h
      obtain ⟨c, hc, h⟩ := Record.of_bind_eq_ok h
      obtain ⟨b, hb, hc⟩ := Record.of_bind_eq_ok hc
      obtain ⟨more, hmore, h⟩ := Record.of_bind_eq_ok h
      obtain ⟨bs, hbs, hmore⟩ := ih.1 hmore
      refine ⟨b :: bs, ?_, ?_⟩
      · rw [List.mapM_cons, hb, hbs]
        rfl
      · rw [List.mapM_cons, hc, hmore]
        exact h
    · rintro ⟨bs, hbs, h⟩
      rw [List.mapM_cons] at hbs
      obtain ⟨b, hb, hbs⟩ := Record.of_bind_eq_ok hbs
      obtain ⟨more, hmore, hbs⟩ := Record.of_bind_eq_ok hbs
      obtain rfl := Except.ok.inj hbs
      rw [List.mapM_cons] at h
      obtain ⟨c, hc, h⟩ := Record.of_bind_eq_ok h
      obtain ⟨others, hothers, h⟩ := Record.of_bind_eq_ok h
      rw [List.mapM_cons, hb, ih.2 ⟨more, hmore, hothers⟩]
      change (g b >>= _) = _
      rw [hc]
      exact h

/-- The operations that are listed with titles have those of what is given for them. -/
theorem titledOperations_eq_ok_iff {titles : List (Text × Option Text)} :
    l.titledOperations = .ok titles ↔ ∃ entries, l.given = .ok entries ∧
      (entries.mapM fun e => e.2.title?.map fun title => (e.1, title)) = .ok titles := by
  have hstep : ∀ o : Operation,
      (if l.withholds o then .error .missingAttribute
        else (l.reach o).title?.map fun title => (o.name, title)) =
      (l.give o).bind fun e => e.2.title?.map fun title => (e.1, title) := by
    intro o
    rw [give]
    split <;> rfl
  rw [titledOperations, given, ← mapM_bind_eq_ok_iff]
  simp only [hstep]

/-! ## Names that the class answers itself -/

/-- What comes with a name is its definition, perhaps with nothing bound to it. -/
def IsDefinition (l : Lineage) (e : Text × Reached) : Prop :=
  ∃ o, l.definition? e.1 = some o ∧
    (e.2 = .operation o ∨ e.2 = .operation { o with routine := o.routine.unbound })

/-- A class that answers none of the names of its routines itself. What it has yet to define and the
record of the types of its attributes it answers unless it has something of its own there. -/
structure GivesDefinitions (l : Lineage) : Prop where
  unanswered : ∀ name o, l.definition? name = some o → name ∉ Operation.answeredNames
  own : ∀ name o, l.definition? name = some o →
    name = Operation.openName ∨ name = SpecialName.types → (l.own? name).isSome

/-- The names come as those of the routines among the definitions, the nearest definition first and
in the order of their class. -/
structure NamesResolve (l : Lineage) (names : List Text) : Prop where
  mem_iff : ∀ name, name ∈ names ↔ ∃ c r, l.definer? name = some c ∧ c.routine? name = some r
  nodup : names.Nodup
  ordered : names.Pairwise l.Precedes

/-- Under a name that it answers itself, a class does not give an operation. -/
theorem reach_ne_operation {o other : Operation}
    (hanswered : o.name ∈ Operation.answeredNames ∨ l.typesAt o = true) :
    l.reach o ≠ .operation other := by
  intro hreach
  unfold reach at hreach
  split at hreach
  · cases hreach
  · next hclass =>
    split at hreach
    · cases hreach
    · next hparent =>
      split at hreach
      · split at hreach <;> cases hreach
      · next hsignature =>
        split at hreach
        · cases hreach
        · next hother =>
          simp_all [Operation.answeredNames]

/-- Under any other name a class gives the operation. -/
theorem reach_of_not_answered {o : Operation} (hname : o.name ∉ Operation.answeredNames)
    (htypes : l.typesAt o = false) :
    l.reach o = if Operation.unboundNames.contains o.name then
      .operation { o with routine := o.routine.unbound } else .operation o := by
  simp only [Operation.answeredNames, List.mem_cons, not_or] at hname
  obtain ⟨hclass, hparent, hsignature, huntitled⟩ := hname
  simp [reach, hclass, hparent, hsignature, huntitled, htypes]

/-- What a class gives for an operation is its definition exactly where the class does not answer
the name itself. -/
theorem isDefinition_reach_iff {o : Operation} (ho : o ∈ l.operations)
    (hkept : l.withholds o = false) :
    l.IsDefinition (o.name, l.reach o) ↔ o.name ∉ Operation.answeredNames ∧
      (o.name = Operation.openName ∨ o.name = SpecialName.types → (l.own? o.name).isSome) := by
  have hopen : o.name = Operation.openName → (l.own? o.name).isSome := by
    intro hname
    rw [withholds, hname, beq_self_eq_true, Bool.true_and, Option.isNone_eq_false_iff] at hkept
    rwa [hname]
  constructor
  · rintro ⟨o', ho', hreached⟩
    obtain rfl := Option.some.inj ((definition?_of_mem_operations ho).symm.trans ho')
    have hgiven : ¬(o.name ∈ Operation.answeredNames ∨ l.typesAt o = true) := by
      intro hanswered
      rcases hreached with hreached | hreached <;> exact reach_ne_operation hanswered hreached
    rw [not_or, Bool.not_eq_true] at hgiven
    obtain ⟨hunanswered, htypes⟩ := hgiven
    refine ⟨hunanswered, ?_⟩
    rintro (hname | hname)
    · exact hopen hname
    · rw [typesAt, hname, beq_self_eq_true, Bool.true_and, Option.isNone_eq_false_iff] at htypes
      rwa [hname]
  · rintro ⟨hunanswered, hown⟩
    have htypes : l.typesAt o = false := by
      rw [typesAt]
      by_cases hname : o.name = SpecialName.types
      · simp [hown (.inr hname)]
      · simp [hname]
    refine ⟨o, definition?_of_mem_operations ho, ?_⟩
    dsimp only
    rw [reach_of_not_answered hunanswered htypes]
    split
    · exact .inr rfl
    · exact .inl rfl

/-- Every class gives each name with its definition, unless it answers one of them itself. -/
theorem exists_given_isDefinition_iff (l : Lineage) :
    (∃ entries, l.given = .ok entries ∧ ∀ e ∈ entries, l.IsDefinition e) ↔
      l.GivesDefinitions := by
  constructor
  · rintro ⟨entries, hgiven, hdefinitions⟩
    obtain ⟨rfl, hkept⟩ := of_given hgiven
    have hgives : ∀ name o, l.definition? name = some o → name ∉ Operation.answeredNames ∧
        (name = Operation.openName ∨ name = SpecialName.types → (l.own? name).isSome) := by
      intro name o ho
      obtain ⟨hmem, rfl⟩ := exists_operation_of_definition? ho
      exact (isDefinition_reach_iff hmem (hkept o hmem)).1
        (hdefinitions _ (List.mem_map_of_mem (f := fun o => (o.name, l.reach o)) hmem))
    exact ⟨fun name o ho => (hgives name o ho).1, fun name o ho => (hgives name o ho).2⟩
  · intro hgives
    have hkept : ∀ o ∈ l.operations, l.withholds o = false := by
      intro o ho
      by_cases hname : o.name = Operation.openName
      · have hown := hgives.own o.name o (definition?_of_mem_operations ho) (.inl hname)
        rw [withholds, Option.isNone_eq_false_iff.2 hown, Bool.and_false]
      · simp [withholds, hname]
    refine ⟨_, given_of_not_withholds hkept, ?_⟩
    intro e he
    obtain ⟨o, ho, rfl⟩ := List.mem_map.1 he
    have hdefinition := definition?_of_mem_operations ho
    exact (isDefinition_reach_iff ho (hkept o ho)).2
      ⟨hgives.unanswered o.name o hdefinition, hgives.own o.name o hdefinition⟩

/-- A lineage none of whose operations goes by a name with a meaning to the class answers none of
them itself. -/
theorem IsPlain.givesDefinitions (hplain : l.IsPlain) : l.GivesDefinitions := by
  have hname : ∀ name o, l.definition? name = some o → name ∉ Operation.classNames := by
    intro name o ho
    obtain ⟨hmem, rfl⟩ := exists_operation_of_definition? ho
    exact hplain o hmem
  simp only [Operation.classNames, Operation.unboundNames, List.mem_cons, List.mem_append,
    not_or] at hname
  constructor
  · intro name o ho
    obtain ⟨hclass, hparent, hsignature, -, huntitled, -⟩ := hname name o ho
    simp [Operation.answeredNames, hclass, hparent, hsignature, huntitled]
  · intro name o ho hopen
    obtain ⟨-, -, -, htypes, -, -, hother, -⟩ := hname name o ho
    exact absurd hopen (not_or.2 ⟨hother, htypes⟩)

theorem namesResolve_of_given {entries : List (Text × Reached)} (hgiven : l.given = .ok entries) :
    l.NamesResolve (entries.map Prod.fst) := by
  have hnames : entries.map Prod.fst = l.operations.map Operation.name := by
    rw [(of_given hgiven).1, List.map_map]
    rfl
  rw [hnames]
  refine ⟨fun name => ?_, l.nodup_map_name_operations, l.pairwise_precedes⟩
  rw [mem_map_name_operations_iff]
  constructor
  · rintro ⟨o, ho⟩
    obtain ⟨c, hc, ho⟩ := Option.bind_eq_some_iff.1 ho
    obtain ⟨r, hr, -⟩ := Option.map_eq_some_iff.1 ho
    exact ⟨c, r, hc, hr⟩
  · rintro ⟨c, r, hc, hr⟩
    exact ⟨⟨name, c.name, r⟩, by rw [definition?, hc, Option.bind_some, hr]; rfl⟩

/-! ## A class with a single base -/

/-- What a class gives beside its own routines is what its base gives, as far as the class does not
define the names. -/
theorem given_cons {self : Ancestor} {inherited : Lineage}
    (hgives : GivesDefinitions (self :: inherited)) {entries : List (Text × Reached)}
    (hgiven : inherited.given = .ok entries) :
    given (self :: inherited) =
      .ok (((ownOperations [] self).map fun o => (o.name, reach (self :: inherited) o)) ++
        entries.filter fun e => !self.defines e.1) := by
  obtain ⟨all, hall, -⟩ := (exists_given_isDefinition_iff _).2 hgives
  obtain ⟨rfl, -⟩ := of_given hall
  obtain ⟨rfl, -⟩ := of_given hgiven
  rw [hall, operations_cons, List.map_append, List.filter_map]
  congr 2
  simp only [Ancestor.contains_map_fst]
  apply List.map_congr_left
  intro o ho
  obtain ⟨hmem, hnew⟩ := List.mem_filter.1 ho
  have hhere : self.defines o.name = false := by simpa using hnew
  have hdefinition : definition? (self :: inherited) o.name = some o := by
    rw [definition?, definer?_cons_of_neg hhere]
    exact definition?_of_mem_operations hmem
  have hname := hgives.unanswered o.name o hdefinition
  -- The class itself would have to define the record of types, were it to inherit one.
  have htypes : o.name ≠ SpecialName.types := by
    intro htypes
    have hown : self.defines o.name = true := hgives.own o.name o hdefinition (.inr htypes)
    rw [hhere] at hown
    cases hown
  have hnone : ∀ l : Lineage, l.typesAt o = false := by
    intro l
    simp [typesAt, htypes]
  rw [reach_of_not_answered hname (hnone _), reach_of_not_answered hname (hnone _)]

end Lineage

namespace Hierarchy

/-- The routines of a class with a single base are those that were declared, apart from one in the
place of a response if an ancestor has told the class that nothing is attached. -/
theorem ownOperations_of_declare {made self : Ancestor} {inherited : Lineage} {c : ClassDeclaration}
    {number : Nat} (hmade : c.toAncestor number [inherited] = .ok made)
    (hself : made.derivedFrom inherited = .ok self) :
    Lineage.ownOperations [] self = c.operations ∨
      (inherited.routine? SpecialName.derivation).isSome ∧
        Lineage.ownOperations [] self = c.operations.filter fun o => o.name != Attached.name := by
  have hdeclared := ClassDeclaration.ownOperations_of_toAncestor hmade
  rcases Ancestor.derivedFrom_eq hself with rfl | ⟨rfl, r, hr⟩
  · exact .inl hdeclared
  · refine .inr ⟨?_, ?_⟩
    · rw [Lineage.routine?, hr]
      rfl
    · rw [Ancestor.ownOperations_detach, hdeclared]

end Hierarchy

namespace Lineage

/-- Going through the operations of a class gives the names whose nearest definition is a routine,
in the order of those definitions, and it gives each with its definition exactly where the class
answers none of them itself. The routines of a declared class are those that are declared, each
where its name is first mentioned and with what is said of it last, and a class with a single base
gives them first and then what its base gives under other names. -/
theorem given_resolves (l : Lineage) (cs : List ClassDeclaration) (c : ClassDeclaration) :
    (∀ entries, l.given = .ok entries → l.NamesResolve (entries.map Prod.fst)) ∧
    (∀ titles, l.titledOperations = .ok titles ↔ ∃ entries, l.given = .ok entries ∧
      (entries.mapM fun e => e.2.title?.map fun title => (e.1, title)) = .ok titles) ∧
    ((∃ entries, l.given = .ok entries ∧ ∀ e ∈ entries, l.IsDefinition e) ↔ l.GivesDefinitions) ∧
    (∀ number bases made, c.toAncestor number bases = .ok made →
      ownOperations [] made = c.operations) ∧
    ∀ h next base, Hierarchy.initial.declareAll cs = .ok h → h.declare c = .ok next →
      c.bases = [base] →
      ∃ self inherited, h.find base = .ok inherited ∧ next.find c.name = .ok (self :: inherited) ∧
        (ownOperations [] self = c.operations ∨
          (inherited.routine? SpecialName.derivation).isSome ∧
            ownOperations [] self = c.operations.filter fun o => o.name != Attached.name) ∧
        ∀ entries, GivesDefinitions (self :: inherited) → inherited.given = .ok entries →
          given (self :: inherited) =
            .ok (((ownOperations [] self).map fun o => (o.name, reach (self :: inherited) o)) ++
              entries.filter fun e => !self.defines e.1) := by
  refine ⟨fun _ => namesResolve_of_given, fun _ => titledOperations_eq_ok_iff,
    l.exists_given_isDefinition_iff, fun _ _ _ => ClassDeclaration.ownOperations_of_toAncestor, ?_⟩
  intro h next base hcs hdeclare hbase
  have hnumbered := Hierarchy.isNumbered_declareAll Hierarchy.isNumbered_initial hcs
  obtain ⟨made, self, inherited, hfind, hmade, hself, hnext⟩ :=
    Hierarchy.exists_find_of_single_base hnumbered hdeclare hbase
  exact ⟨self, inherited, hfind, hnext, Hierarchy.ownOperations_of_declare hmade hself,
    fun _ hgives hgiven => given_cons hgives hgiven⟩

def postClass : ClassDeclaration where
  name := "Post".toList
  bases := ["Endpoint".toList]
  members :=
    [⟨"get".toList, none, .routine ⟨.object, none, none, []⟩⟩,
      ⟨"put".toList, none, .routine ⟨.object, none, none, []⟩⟩]

/-- A class derived from it that mentions one verb twice and hides the other. -/
def blogClass : ClassDeclaration where
  name := "Blog".toList
  bases := ["Post".toList]
  members :=
    [⟨"get".toList, none, .value .null⟩,
      ⟨"patch".toList, none, .routine ⟨.nothing, none, none, []⟩⟩,
      ⟨"put".toList, none, .value .null⟩,
      ⟨"get".toList, none, .routine ⟨.object, none, none, []⟩⟩]

theorem given_resolves_blog :
    ∃ h next l entries, Hierarchy.initial.declareAll [postClass] = .ok h ∧
      h.declare blogClass = .ok next ∧ next.find "Blog".toList = .ok l ∧ l.GivesDefinitions ∧
      l.given = .ok entries ∧ l.NamesResolve (entries.map Prod.fst) ∧
      entries.map Prod.fst = "get".toList :: "patch".toList :: Builtin.all.map Builtin.name := by
  refine ⟨_, _, _, _, rfl, rfl, rfl, IsPlain.givesDefinitions ?_, rfl,
    (given_resolves _ [postClass] blogClass).1 _ rfl, ?_⟩
  · unfold IsPlain
    decide +kernel
  · rfl

/-- A class with a routine under the name by which classes are asked for their base. -/
def namingBase : ClassDeclaration where
  name := "H".toList
  bases := ["Endpoint".toList]
  members :=
    [⟨Operation.parentName, none, .routine ⟨.object, none, none, []⟩⟩,
      ⟨"get".toList, none, .routine ⟨.object, none, none, []⟩⟩]

theorem gives_base_for_routine :
    ∃ h l entries, Hierarchy.initial.declareAll [namingBase] = .ok h ∧
      h.find "H".toList = .ok l ∧ l.given = .ok entries ∧ ∃ e ∈ entries, ¬l.IsDefinition e := by
  refine ⟨_, _, _, rfl, rfl, rfl, (Operation.parentName, .parent (asParent [.base])), ?_, ?_⟩
  · exact List.mem_cons_self
  · rintro ⟨o, -, hsame | hsame⟩ <;> cases hsame

end Lineage
end VerbDoc
