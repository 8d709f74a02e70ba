import Mathlib.Data.List.Nodup
import Wiring.Member
import Wiring.Proofs.ClassPaths
import Wiring.Proofs.Success

/-!
# Places of markers

Each marker on a member stands at one place of a unit: in the class that declares the member, among
its functions or its properties, and on the member among the markers of the same name. The members
of a class are those of some classes, so its markers have places in these.

* `MemberPlace`, `MarkerPlace`: places, with what stands there (`CompilationUnit.memberAt?`,
  `CompilationUnit.markerAt?`);
* `ClassDeclaration.holderPaths`, `ClassDeclaration.memberPlaces`: the members of a class with their
  places, in their order;
* `ClassDeclaration.markersAt`: the markers on the members of a class with their places;
* **`ClassDeclaration.nodup_markersAt`**: no marker of a class is listed twice;
* **`CompilationUnit.mem_markersAt`**: the markers of a class are all those that stand in the class
  itself or in a companion object of it.
-/

namespace Wiring

/-! ## Lists made of lists -/

/-- A list made of lists has no member twice if none of them has, and if their members tell which
one they are from. -/
theorem nodup_flatMap_of_tag {α β γ : Type} {list : List α} {f : α → List β} (key : α → γ)
    (tag : β → γ) (hkeys : (list.map key).Nodup) (hparts : ∀ a ∈ list, (f a).Nodup)
    (htags : ∀ a ∈ list, ∀ b ∈ f a, tag b = key a) : (list.flatMap f).Nodup := by
  rw [List.nodup_flatMap]
  refine ⟨hparts, ?_⟩
  rw [List.Nodup, List.pairwise_map] at hkeys
  refine hkeys.imp_of_mem fun {a a'} ha ha' hne b hb hb' => hne ?_
  rw [← htags a ha b hb, htags a' ha' b hb']

theorem nodup_map_zipIdx {α β : Type} {place : Nat → β} (hplace : place.Injective)
    (list : List α) : (list.zipIdx.map fun entry => place entry.2).Nodup := by
  have hindices : (list.zipIdx.map (·.2)).Nodup := by
    rw [List.zipIdx_map_snd]
    exact List.nodup_range'
  have hplaces := hindices.map hplace
  rw [List.map_map] at hplaces
  exact hplaces

/-! ## Places -/

/-- The place of a member: the path of the class that declares it, and which of the functions or
of the properties there it is. -/
structure MemberPlace where
  holder : List Nat
  kind : MemberKind
  index : Nat
  deriving DecidableEq

/-- The place of a marker: that of its member, and which of the markers of the same name there it
is. -/
structure MarkerPlace where
  member : MemberPlace
  index : Nat
  deriving DecidableEq

/-- The members of a kind that a class itself declares. -/
def ClassDeclaration.ownMembers (c : ClassDeclaration) : MemberKind → List Member
  | .function => c.ownFunctions
  | .property => c.ownProperties

namespace CompilationUnit

variable (unit : CompilationUnit)

/-- The member at a place. -/
def memberAt? (place : MemberPlace) : Option Member :=
  (unit.classAt? place.holder).bind fun c => (c.ownMembers place.kind)[place.index]?

/-- The marker of a name at a place, with its member. -/
def markerAt? (marker : QualifiedName) (place : MarkerPlace) : Option (Member × Annotation) :=
  (unit.memberAt? place.member).bind fun member =>
    ((annotationsOf member.annotations marker)[place.index]?).map (member, ·)

end CompilationUnit

/-! ## The members of a class -/

namespace ClassDeclaration

variable (c : ClassDeclaration) (path : List Nat)

/-- The classes whose members count as those of a class, each with its path. -/
def holderPaths : List (List Nat × ClassDeclaration) :=
  ((c.nested.zipIdx.filter (·.1.kind = .companionObject)).map fun entry =>
    (path ++ [entry.2], entry.1)) ++ [(path, c)]

/-- The members of a class, each with its place. -/
def memberPlaces : List (MemberPlace × Member) :=
  [MemberKind.function, .property].flatMap fun kind =>
    (c.holderPaths path).flatMap fun holder =>
      (holder.2.ownMembers kind).zipIdx.map fun entry => (⟨holder.1, kind, entry.2⟩, entry.1)

theorem map_snd_holderPaths : (c.holderPaths path).map (·.2) = c.holders := by
  have hcompanions : (c.nested.zipIdx.filter (·.1.kind = .companionObject)).map (·.1) =
      c.companions := by
    have hfilter := List.filter_map (f := Prod.fst) (p := fun d : ClassDeclaration =>
      decide (d.kind = .companionObject)) (l := c.nested.zipIdx)
    rw [List.zipIdx_map_fst] at hfilter
    exact hfilter.symm
  rw [holderPaths, List.map_append, List.map_map]
  exact congrArg (· ++ [c]) hcompanions

/-- The members are listed in their order. -/
theorem map_snd_memberPlaces : (c.memberPlaces path).map (·.2) = c.members := by
  have hkind : ∀ kind, ((c.holderPaths path).flatMap fun holder =>
      (holder.2.ownMembers kind).zipIdx.map fun entry =>
        (MemberPlace.mk holder.1 kind entry.2, entry.1)).map (·.2) =
      c.holders.flatMap (·.ownMembers kind) := by
    intro kind
    rw [← c.map_snd_holderPaths path, List.map_flatMap, List.flatMap_map]
    refine List.flatMap_congr fun holder _ => ?_
    rw [List.map_map]
    exact List.zipIdx_map_fst 0 _
  rw [memberPlaces, List.flatMap_cons, List.flatMap_singleton, List.map_append, hkind, hkind]
  rfl

theorem mem_map_holderPaths {c : ClassDeclaration} {path p : List Nat} :
    p ∈ (c.holderPaths path).map (·.1) ↔
      p = path ∨ ∃ index companion, p = path ++ [index] ∧ c.nested[index]? = some companion ∧
        companion.kind = .companionObject := by
  simp only [holderPaths, List.map_append, List.map_map, List.mem_append, List.mem_map,
    List.map_cons, List.map_nil, List.mem_singleton, List.mem_filter, decide_eq_true_eq,
    List.mem_zipIdx_iff_getElem?]
  constructor
  · rintro (⟨⟨companion, index⟩, ⟨hnested, hkind⟩, rfl⟩ | hself)
    · exact .inr ⟨index, companion, rfl, hnested, hkind⟩
    · exact .inl hself
  · rintro (hself | ⟨index, companion, rfl, hnested, hkind⟩)
    · exact .inr hself
    · exact .inl ⟨(companion, index), ⟨hnested, hkind⟩, rfl⟩

theorem nodup_holderPaths : ((c.holderPaths path).map (·.1)).Nodup := by
  have hnested : ((c.nested.zipIdx.filter (·.1.kind = .companionObject)).map fun entry =>
      path ++ [entry.2]).Nodup := by
    have hinjective : (fun index : Nat => path ++ [index]).Injective := fun i j h => by
      simpa using h
    exact (nodup_map_zipIdx hinjective c.nested).sublist (List.filter_sublist.map _)
  rw [holderPaths, List.map_append, List.map_map, List.nodup_append]
  refine ⟨hnested, List.nodup_singleton path, fun p hp q hq => ?_⟩
  obtain ⟨entry, -, rfl⟩ := List.mem_map.1 hp
  rw [List.mem_singleton.1 hq]
  simp

theorem nodup_memberPlaces : ((c.memberPlaces path).map (·.1)).Nodup := by
  rw [memberPlaces, List.map_flatMap]
  refine nodup_flatMap_of_tag id MemberPlace.kind (by decide) (fun kind _ => ?_) ?_
  · rw [List.map_flatMap]
    refine nodup_flatMap_of_tag Prod.fst MemberPlace.holder (c.nodup_holderPaths path)
      (fun holder _ => ?_) fun holder _ place hplace => ?_
    · rw [List.map_map]
      exact nodup_map_zipIdx (fun i j h => (MemberPlace.mk.inj h).2.2) _
    · simp only [List.map_map, List.mem_map] at hplace
      obtain ⟨entry, -, rfl⟩ := hplace
      rfl
  · intro kind _ place hplace
    simp only [List.map_flatMap, List.map_map, List.mem_flatMap, List.mem_map] at hplace
    obtain ⟨holder, -, entry, -, rfl⟩ := hplace
    rfl

/-! ## The markers of a class -/

/-- The markers of a name on the members of a class, each with its place and its member. -/
def markersAt (marker : QualifiedName) : List (MarkerPlace × Member × Annotation) :=
  (c.memberPlaces path).flatMap fun entry =>
    (annotationsOf entry.2.annotations marker).zipIdx.map fun ann =>
      (⟨entry.1, ann.2⟩, entry.2, ann.1)

/-- **No marker is listed twice.** -/
theorem nodup_markersAt (marker : QualifiedName) : ((c.markersAt path marker).map (·.1)).Nodup := by
  rw [markersAt, List.map_flatMap]
  refine nodup_flatMap_of_tag Prod.fst MarkerPlace.member (c.nodup_memberPlaces path)
    (fun entry _ => ?_) fun entry _ place hplace => ?_
  · rw [List.map_map]
    exact nodup_map_zipIdx (fun i j h => (MarkerPlace.mk.inj h).2) _
  · simp only [List.map_map, List.mem_map] at hplace
    obtain ⟨ann, -, rfl⟩ := hplace
    rfl

/-- The markers are listed member by member, and the members without any may be left out. -/
theorem map_markersAt {β : Type} (marker : QualifiedName) (f : Member → Annotation → β) :
    (c.markersAt path marker).map (fun entry => f entry.2.1 entry.2.2) =
      (c.markedMembers marker).flatMap fun member =>
        (annotationsOf member.annotations marker).map (f member) := by
  have hall : (c.markersAt path marker).map (fun entry => f entry.2.1 entry.2.2) =
      c.members.flatMap fun member => (annotationsOf member.annotations marker).map (f member) := by
    rw [← c.map_snd_memberPlaces path, markersAt, List.map_flatMap, List.flatMap_map]
    refine List.flatMap_congr fun entry _ => ?_
    have hannotations := List.zipIdx_map_fst 0 (annotationsOf entry.2.annotations marker)
    conv_rhs => rw [← hannotations]
    rw [List.map_map, List.map_map]
    rfl
  rw [hall, markedMembers]
  induction c.members with
  | nil => rfl
  | cons member rest ih =>
    rw [List.flatMap_cons, ih, List.filter_cons]
    split
    · rw [List.flatMap_cons]
    · next hmarked =>
      rw [annotationsOf_eq_nil.2 (Bool.eq_false_iff.2 hmarked), List.map_nil, List.nil_append]

end ClassDeclaration

/-! ## What stands at a place -/

namespace CompilationUnit

variable {unit : CompilationUnit} {path : List Nat} {c : ClassDeclaration}

theorem classAt?_of_mem_holderPaths (h : unit.classAt? path = some c)
    {holder : List Nat × ClassDeclaration} (hholder : holder ∈ c.holderPaths path) :
    unit.classAt? holder.1 = some holder.2 := by
  rcases List.mem_append.1 hholder with hnested | hself
  · obtain ⟨entry, hentry, rfl⟩ := List.mem_map.1 hnested
    rw [classAt?_nested h]
    exact List.mem_zipIdx_iff_getElem?.1 (List.mem_filter.1 hentry).1
  · rw [List.mem_singleton.1 hself]
    exact h

theorem mem_memberPlaces (h : unit.classAt? path = some c) {place : MemberPlace}
    {member : Member} :
    (place, member) ∈ c.memberPlaces path ↔
      place.holder ∈ (c.holderPaths path).map (·.1) ∧ unit.memberAt? place = some member := by
  constructor
  · intro hentry
    obtain ⟨kind, -, hentry⟩ := List.mem_flatMap.1 hentry
    obtain ⟨holder, hholder, hentry⟩ := List.mem_flatMap.1 hentry
    obtain ⟨⟨own, index⟩, hown, heq⟩ := List.mem_map.1 hentry
    obtain ⟨rfl, rfl⟩ := Prod.mk.inj heq
    refine ⟨List.mem_map_of_mem hholder, ?_⟩
    rw [memberAt?, classAt?_of_mem_holderPaths h hholder]
    exact List.mem_zipIdx_iff_getElem?.1 hown
  · rintro ⟨hpath, hmember⟩
    obtain ⟨holder, hholder, hpath⟩ := List.mem_map.1 hpath
    rw [memberAt?, ← hpath, classAt?_of_mem_holderPaths h hholder] at hmember
    have hkind : place.kind ∈ [MemberKind.function, .property] := by
      cases place.kind <;> decide
    refine List.mem_flatMap.2 ⟨place.kind, hkind, List.mem_flatMap.2 ⟨holder, hholder, ?_⟩⟩
    refine List.mem_map.2 ⟨(member, place.index), List.mem_zipIdx_iff_getElem?.2 hmember, ?_⟩
    rw [hpath]

/-- **The markers listed for a class are those in the classes whose members count as its own**, each
at its place. -/
theorem mem_markersAt (h : unit.classAt? path = some c) {marker : QualifiedName}
    {place : MarkerPlace} {found : Member × Annotation} :
    (place, found) ∈ c.markersAt path marker ↔
      place.member.holder ∈ (c.holderPaths path).map (·.1) ∧
        unit.markerAt? marker place = some found := by
  constructor
  · intro hentry
    obtain ⟨⟨own, member⟩, hmember, hentry⟩ := List.mem_flatMap.1 hentry
    obtain ⟨⟨ann, index⟩, hann, heq⟩ := List.mem_map.1 hentry
    obtain ⟨rfl, rfl⟩ := Prod.mk.inj heq
    obtain ⟨hholder, hmember⟩ := (mem_memberPlaces h).1 hmember
    refine ⟨hholder, ?_⟩
    rw [markerAt?, hmember, Option.bind_some, List.mem_zipIdx_iff_getElem?.1 hann]
    rfl
  · rintro ⟨hholder, hfound⟩
    obtain ⟨member, hmember, hfound⟩ := Option.bind_eq_some_iff.1 hfound
    obtain ⟨ann, hann, rfl⟩ := Option.map_eq_some_iff.1 hfound
    refine List.mem_flatMap.2 ⟨_, (mem_memberPlaces h).2 ⟨hholder, hmember⟩, ?_⟩
    exact List.mem_map.2 ⟨(ann, place.index), List.mem_zipIdx_iff_getElem?.2 hann, rfl⟩

end CompilationUnit

end Wiring
