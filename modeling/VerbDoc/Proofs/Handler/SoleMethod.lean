import VerbDoc.Handler.Hierarchy
import VerbDoc.Proofs.Handler.Discovery

/-!
# A class for a name

A class of endpoints may have a method under any name, and a few names mean something to whoever
declares the class or makes an object of it. Main statement: under every other name a class with
this one method is declared, has the method under the name, and is like the class of all endpoints
otherwise.
-/
namespace VerbDoc

/-- The names under which a method says something of its class, changes how objects are made, or
keeps verbs from being listed. -/
def heededNames : List Text :=
  [ClassDeclaration.qualifiedName, ClassDeclaration.bodyCell, ClassDeclaration.equality,
    SpecialName.slots, SpecialName.derivation, SpecialName.indexing, SpecialName.home,
    SpecialName.description, SpecialName.creation, SpecialName.assignment, Builtin.create.name,
    Operation.openName]

def idleMethod : Member := .routine ⟨.object, none, none, []⟩

def soleMethodDeclaration (name : Text) : ClassDeclaration where
  name := "H".toList
  bases := [Ancestor.base.name]
  members := [⟨name, none, idleMethod⟩]

def soleMembers (name : Text) : OrderedMap Text Member := .ofList [(name, idleMethod)]

/-- The class that is declared. -/
def soleMethodClass (name : Text) : DeclaredClass where
  number := 1
  name := "H".toList
  title := "H".toList
  parent := Lineage.asParent [.base]
  bases := [Ancestor.base.identity]
  members := soleMembers name
  implied := [SpecialName.home, SpecialName.description]
  opened := []
  later := []

def Lineage.soleMethod (name : Text) : Lineage := [.declared (soleMethodClass name), .base]

def Hierarchy.soleMethod (name : Text) : Hierarchy :=
  ⟨[("H".toList, .soleMethod name), (Ancestor.base.name, [.base])]⟩

variable {name other : Text}

theorem get?_soleMembers (hother : name ≠ other) : (soleMembers name).get? other = none := by
  have hkeys : (soleMembers name).keys = [name] := rfl
  rw [OrderedMap.get?_eq_none_iff, hkeys, List.mem_singleton]
  exact hother.symm

theorem erase_soleMembers (hother : name ≠ other) :
    (soleMembers name).erase other = soleMembers name := by
  have hentries : (soleMembers name).entries = [(name, idleMethod)] := rfl
  apply OrderedMap.ext
  simp [OrderedMap.erase, hentries, hother]

/-! ## The declaration -/

section Declaring

variable (hname : ∀ other ∈ heededNames, name ≠ other)

include hname

theorem placed_idleMethod : ClassDeclaration.placed name idleMethod = idleMethod := by
  have hother : name ∉ ClassDeclaration.classMethodNames := by
    simp [ClassDeclaration.classMethodNames, hname SpecialName.derivation (by decide),
      hname SpecialName.indexing (by decide)]
  simp [ClassDeclaration.placed, idleMethod, hother]

theorem impliedNames_soleMembers :
    ClassDeclaration.impliedNames (soleMembers name) [] =
      [SpecialName.home, SpecialName.description] := by
  have hhome := get?_soleMembers (hname SpecialName.home (by decide))
  have hdescription := get?_soleMembers (hname SpecialName.description (by decide))
  have hequality := get?_soleMembers (hname ClassDeclaration.equality (by decide))
  simp [ClassDeclaration.impliedNames, OrderedMap.contains, hhome, hdescription, hequality]

theorem complete_soleMembers :
    Slots.complete "H".toList [[.base]] (soleMembers name) = .ok (soleMembers name, []) := by
  have hprimary : Slots.primary? [[Ancestor.base]] = some [.base] := rfl
  exact Slots.complete_of_listed_eq_none hprimary
    (get?_soleMembers (hname SpecialName.slots (by decide)))

theorem checkNames_soleMembers :
    (soleMethodDeclaration name).checkNames (soleMembers name) = .ok () := by
  rw [ClassDeclaration.checkNames,
    get?_soleMembers (hname ClassDeclaration.qualifiedName (by decide)), OrderedMap.contains,
    get?_soleMembers (hname ClassDeclaration.bodyCell (by decide))]
  rfl

theorem titleAmong_soleMembers :
    (soleMethodDeclaration name).titleAmong (soleMembers name) = "H".toList := by
  rw [ClassDeclaration.titleAmong,
    get?_soleMembers (hname ClassDeclaration.qualifiedName (by decide))]
  rfl

theorem toAncestor_soleMethod :
    (soleMethodDeclaration name).toAncestor 1 [[.base]] =
      .ok (.declared (soleMethodClass name)) := by
  have hchecked : (soleMethodDeclaration name).checkedMembers = .ok (soleMembers name) := rfl
  have hkept : ((soleMembers name).erase ClassDeclaration.qualifiedName).erase
      ClassDeclaration.bodyCell = soleMembers name := by
    rw [erase_soleMembers (hname ClassDeclaration.qualifiedName (by decide)),
      erase_soleMembers (hname ClassDeclaration.bodyCell (by decide))]
  have hclass : (soleMethodDeclaration name).name = "H".toList := rfl
  have hentries : (soleMembers name).entries = [(name, idleMethod)] := rfl
  have hmembers : OrderedMap.ofList [(name, idleMethod)] = soleMembers name := rfl
  simp only [ClassDeclaration.toAncestor, hchecked, hkept, hclass, complete_soleMembers hname,
    checkNames_soleMembers hname, titleAmong_soleMembers hname, hentries, bind, Except.bind, pure,
    Except.pure, List.map_cons, List.map_nil, placed_idleMethod hname, hmembers,
    impliedNames_soleMembers hname]
  rfl

theorem declareAll_soleMethod :
    Hierarchy.initial.declareAll [soleMethodDeclaration name] = .ok (.soleMethod name) := by
  have hmade := toAncestor_soleMethod hname
  have hbases : (soleMethodDeclaration name).bases.mapM Hierarchy.initial.find =
      .ok [[.base]] := rfl
  have hlength : Hierarchy.initial.lineages.length = 1 := rfl
  simp only [Hierarchy.declareAll, List.foldlM_cons, List.foldlM_nil, Hierarchy.declare, hbases,
    hlength, hmade, bind, Except.bind]
  rfl

end Declaring

/-! ## The names of the class -/

namespace Lineage

/-- Under other names the class has what the class of all endpoints has. -/
theorem attribute?_soleMethod (hname : name ≠ other)
    (hother : other ∉ [SpecialName.home, SpecialName.description]) :
    (soleMethod name).attribute? other = attribute? [.base] other := by
  have hnone :
      OrderedMap.find other (Ancestor.declared (soleMethodClass name)).attributes = none := by
    rw [OrderedMap.find_eq_none_iff]
    exact List.not_mem_cons_of_ne_of_not_mem hname.symm hother
  rw [soleMethod, attribute?_cons, hnone]

theorem attribute?_soleMethod_self (name : Text) :
    (soleMethod name).attribute? name = some (.member idleMethod) := by
  have hfound : OrderedMap.find name (Ancestor.declared (soleMethodClass name)).attributes =
      some (.member idleMethod) := if_pos rfl
  rw [soleMethod, attribute?_cons, hfound]

end Lineage
end VerbDoc
