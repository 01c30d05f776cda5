import Mathlib.Data.List.Nodup
import Mathlib.Data.List.Perm.Subperm
import AppLifecycle.Proofs.KeyMap
import AppLifecycle.SurfaceIds

/-!
# The table of persistent ids

The two sides of the table are inverse to each other: an id leads to the surface that goes by it
and back. An id that the table issues is free, since among as many numbers as there are ids in
use, and one more, one is not taken. Naming a surface and forgetting it again is therefore no way
to leave the table alone: it frees whatever the surface went by, and takes the id that was asked
for away from whoever had it (`surfaceFor?_forget_name`).
-/

namespace AppLifecycle.SurfaceIds

variable {ids : SurfaceIds} {surface other : SurfaceHandle} {id candidate : SurfaceId}

/-- Names a surface by the id it asks for, or by its own or a new one. -/
def name (requested : Option SurfaceId) (surface : SurfaceHandle) (ids : SurfaceIds) :
    SurfaceIds × SurfaceId :=
  match requested with
  | some id => (ids.associate id surface, id)
  | none => ids.idFor surface

/-- A surface goes by an id exactly if the id leads to the surface. -/
def Paired (ids : SurfaceIds) : Prop :=
  ∀ surface id, ids.bySurface.find? surface = some id ↔ ids.surfaceFor? id = some surface

theorem withStem_paired (stem : String) : (withStem stem).Paired := by
  intro surface id
  simp [withStem, surfaceFor?]

theorem Paired.unnamed_iff (paired : ids.Paired) (surface : SurfaceHandle) :
    ids.bySurface.find? surface = none ↔ ∀ id, ids.surfaceFor? id ≠ some surface := by
  rw [Option.eq_none_iff_forall_ne_some]
  exact forall_congr' fun id => not_congr (paired surface id)

/-- Either side of the table determines the other. -/
theorem Paired.eq_of_bySurface {first second : SurfaceIds} (left : first.Paired)
    (right : second.Paired) (stem : first.stem = second.stem)
    (issued : first.issued = second.issued)
    (same : ∀ surface, first.bySurface.find? surface = second.bySurface.find? surface) :
    first = second := by
  have bySurface : first.bySurface = second.bySurface := KeyMap.ext_find? same
  have byId : first.byId = second.byId := by
    apply KeyMap.ext_find?
    intro id
    apply Option.ext
    intro surface
    exact (left surface id).symm.trans ((Eq.congr_left (same surface)).trans (right surface id))
  cases first
  cases second
  cases stem
  cases issued
  cases bySurface
  cases byId
  rfl

/-! ## Issued ids are free -/

theorem numbered_injective {first second : Nat} (h : ids.numbered first = ids.numbered second) :
    first = second := by
  have texts : ids.stem ++ "-" ++ toString first = ids.stem ++ "-" ++ toString second :=
    congrArg SurfaceId.text h
  have digits := congrArg String.toList (String.append_right_inj _ |>.1 texts)
  rw [Nat.toString_eq_repr, Nat.toString_eq_repr, Nat.toList_repr, Nat.toList_repr] at digits
  have numbers := congrArg (Nat.ofDigitChars 10 · 0) digits
  simpa only [Nat.ofDigitChars_ten_toDigits] using numbers

theorem lt_firstFree (number tries : Nat) : number < ids.firstFree number tries := by
  induction tries generalizing number with
  | zero => exact Nat.lt_succ_self number
  | succ tries ih =>
      rw [firstFree]
      split
      · exact Nat.lt_of_succ_lt (ih (number + 1))
      · exact Nat.lt_succ_self number

/-- The search passes only numbers that are taken. -/
theorem taken_of_lt_firstFree {number tries passed : Nat} (after : number < passed)
    (before : passed < ids.firstFree number tries) :
    ids.byId.contains (ids.numbered passed) = true := by
  induction tries generalizing number with
  | zero =>
      rw [firstFree] at before
      omega
  | succ tries ih =>
      rw [firstFree] at before
      split at before
      · rename_i taken
        by_cases next : passed = number + 1
        · rw [next]
          exact taken
        · exact ih (by omega) before
      · omega

/-- A search that ends with a number that is taken has made all its tries. -/
theorem firstFree_of_taken {number tries : Nat}
    (taken : ids.byId.contains (ids.numbered (ids.firstFree number tries)) = true) :
    ids.firstFree number tries = number + tries + 1 := by
  induction tries generalizing number with
  | zero => rfl
  | succ tries ih =>
      rw [firstFree] at taken ⊢
      split at taken
      · rename_i nextTaken
        rw [if_pos nextTaken, ih taken]
        omega
      · rename_i nextFree
        exact absurd taken nextFree

/-- Among as many numbers as there are ids, and one more, one is free. -/
theorem firstFree_free (ids : SurfaceIds) (number : Nat) :
    ids.byId.find? (ids.numbered (ids.firstFree number ids.byId.size)) = none := by
  rw [← KeyMap.contains_eq_false_iff, ← Bool.not_eq_true]
  intro taken
  have last := firstFree_of_taken taken
  have distinct : ((List.range (ids.byId.size + 1)).map fun offset =>
      ids.numbered (number + 1 + offset)).Nodup := by
    apply List.nodup_range.map
    intro first second equal
    have same := numbered_injective equal
    omega
  have known : ((List.range (ids.byId.size + 1)).map fun offset =>
      ids.numbered (number + 1 + offset)) ⊆ ids.byId.keys := by
    intro id member
    rcases List.mem_map.1 member with ⟨offset, inside, rfl⟩
    have bound := List.mem_range.1 inside
    apply KeyMap.contains_iff_mem_keys.1
    by_cases atEnd : number + 1 + offset = ids.firstFree number ids.byId.size
    · rw [atEnd]
      exact taken
    · have after : number < number + 1 + offset := by omega
      have before : number + 1 + offset < ids.firstFree number ids.byId.size := by omega
      exact taken_of_lt_firstFree after before
  have crowded := (List.subperm_of_subset distinct known).length_le
  simp only [List.length_map, List.length_range, KeyMap.keys, KeyMap.size] at crowded
  omega

/-! ## Forgetting -/

theorem forget_of_unnamed (unnamed : ids.bySurface.find? surface = none) :
    ids.forget surface = ids := by
  rw [forget, unnamed]

theorem forget_of_named (named : ids.bySurface.find? surface = some id) :
    ids.forget surface =
      { ids with
        bySurface := ids.bySurface.erase surface
        byId := ids.byId.erase id } := by
  rw [forget, named]

theorem bySurface_forget :
    (ids.forget surface).bySurface.find? other =
      if other = surface then none else ids.bySurface.find? other := by
  cases known : ids.bySurface.find? surface with
  | none =>
      rw [forget_of_unnamed known]
      split
      · rename_i equal
        rw [equal]
        exact known
      · rfl
  | some id =>
      rw [forget_of_named known]
      exact KeyMap.find?_erase ..

/-- Forgetting a surface frees the id that it goes by. -/
theorem surfaceFor?_forget (paired : ids.Paired) :
    (ids.forget surface).surfaceFor? candidate =
      if ids.surfaceFor? candidate = some surface then none else ids.surfaceFor? candidate := by
  cases known : ids.bySurface.find? surface with
  | none =>
      rw [forget_of_unnamed known, if_neg]
      intro taken
      rw [(paired surface candidate).2 taken] at known
      contradiction
  | some id =>
      rw [forget_of_named known]
      apply (KeyMap.find?_erase ..).trans
      have owned := (paired surface id).1 known
      by_cases equal : candidate = id
      · rw [if_pos equal, equal, if_pos owned]
      · have free : ids.surfaceFor? candidate ≠ some surface := by
          intro taken
          rw [(paired surface candidate).2 taken] at known
          exact equal (Option.some.inj known)
        rw [if_neg equal, if_neg free]
        rfl

theorem stem_forget : (ids.forget surface).stem = ids.stem := by
  unfold forget
  split <;> rfl

theorem issued_forget : (ids.forget surface).issued = ids.issued := by
  unfold forget
  split <;> rfl

theorem forget_paired (paired : ids.Paired) : (ids.forget surface).Paired := by
  intro other id
  rw [bySurface_forget]
  refine Iff.trans ?_ (Eq.congr_left (surfaceFor?_forget paired)).symm
  have linked := paired other id
  by_cases equal : other = surface
  · subst equal
    rw [if_pos rfl]
    split
    · simp
    · rename_i free
      simp [free]
  · rw [if_neg equal, linked]
    split
    · rename_i taken
      simp [taken, Ne.symm equal]
    · rfl

/-- Surfaces may be forgotten one after the other. -/
theorem forgetEach_paired (paired : ids.Paired) (surfaces : List SurfaceHandle) :
    (surfaces.foldl (fun ids surface => ids.forget surface) ids).Paired := by
  induction surfaces generalizing ids with
  | nil => exact paired
  | cons surface rest ih => exact ih (forget_paired paired)

theorem stem_forgetEach (surfaces : List SurfaceHandle) :
    (surfaces.foldl (fun ids surface => ids.forget surface) ids).stem = ids.stem := by
  induction surfaces generalizing ids with
  | nil => rfl
  | cons surface rest ih => exact ih.trans stem_forget

theorem issued_forgetEach (surfaces : List SurfaceHandle) :
    (surfaces.foldl (fun ids surface => ids.forget surface) ids).issued = ids.issued := by
  induction surfaces generalizing ids with
  | nil => rfl
  | cons surface rest ih => exact ih.trans issued_forget

theorem bySurface_forgetEach (surfaces : List SurfaceHandle) :
    (surfaces.foldl (fun ids surface => ids.forget surface) ids).bySurface.find? other =
      if other ∈ surfaces then none else ids.bySurface.find? other := by
  induction surfaces generalizing ids with
  | nil => simp
  | cons surface rest ih =>
      rw [List.foldl_cons, ih, bySurface_forget]
      by_cases equal : other = surface
      · simp [equal]
      · simp [equal]

theorem surfaceFor?_forgetEach (paired : ids.Paired) (surfaces : List SurfaceHandle) :
    (surfaces.foldl (fun ids surface => ids.forget surface) ids).surfaceFor? candidate =
        some other ↔
      ids.surfaceFor? candidate = some other ∧ other ∉ surfaces := by
  induction surfaces generalizing ids with
  | nil => simp
  | cons surface rest ih =>
      rw [List.foldl_cons, ih (forget_paired paired), surfaceFor?_forget paired, List.mem_cons,
        not_or, ← and_assoc]
      apply and_congr_left
      intro _
      by_cases equal : other = surface
      · subst equal
        simp only [not_true_eq_false, and_false, iff_false]
        split
        · simp
        · assumption
      · split
        · rename_i led
          simp [led, Ne.symm equal]
        · simp [equal]

/-! ## Naming -/

theorem surfaceFor?_associate (paired : ids.Paired) :
    (ids.associate id surface).surfaceFor? candidate =
      if candidate = id then some surface
      else if ids.surfaceFor? candidate = some surface then none
      else ids.surfaceFor? candidate := by
  apply (KeyMap.find?_insert ..).trans
  split
  · rfl
  · exact surfaceFor?_forget paired

theorem bySurface_associate (paired : ids.Paired) :
    (ids.associate id surface).bySurface.find? other =
      if other = surface then some id
      else if ids.surfaceFor? id = some other then none
      else ids.bySurface.find? other := by
  apply (KeyMap.find?_insert ..).trans
  split
  · rfl
  · rename_i different
    have kept : (ids.forget surface).bySurface.find? other = _ := bySurface_forget
    rw [if_neg different] at kept
    have forgotten : (ids.forget surface).byId.find? id = _ := surfaceFor?_forget paired
    rw [forgotten]
    cases holder : ids.surfaceFor? id with
    | none => simpa using kept
    | some former =>
        by_cases own : former = surface
        · simpa [own, Ne.symm different] using kept
        · simp only [Option.some.injEq, own, if_false, KeyMap.find?_erase, kept]
          by_cases robbed : other = former
          · simp [robbed]
          · simp [robbed, Ne.symm robbed]

theorem associate_paired (paired : ids.Paired) : (ids.associate id surface).Paired := by
  intro other candidate
  rw [bySurface_associate paired]
  refine Iff.trans ?_ (Eq.congr_left (surfaceFor?_associate paired)).symm
  have linked := paired other candidate
  by_cases own : other = surface
  · subst own
    rw [if_pos rfl]
    by_cases equal : candidate = id
    · simp [equal]
    · rw [if_neg equal]
      split
      · simp [Ne.symm equal]
      · rename_i free
        simp [Ne.symm equal, free]
  · rw [if_neg own]
    by_cases equal : candidate = id
    · subst equal
      rw [if_pos rfl]
      split
      · simp [Ne.symm own]
      · rename_i free
        simp [Ne.symm own, linked, free]
    · rw [if_neg equal]
      by_cases robbed : ids.surfaceFor? id = some other
      · have named := (paired other id).2 robbed
        have elsewhere : ids.surfaceFor? candidate ≠ some other := by
          rw [← linked.ne, named]
          simpa using Ne.symm equal
        rw [if_pos robbed]
        split
        · simp
        · simp [elsewhere]
      · rw [if_neg robbed, linked]
        split
        · rename_i taken
          simp [taken, Ne.symm own]
        · rfl

theorem idFor_of_named (named : ids.bySurface.find? surface = some id) :
    ids.idFor surface = (ids, id) := by
  rw [idFor, named]

/-- The id that is issued next. -/
def nextId (ids : SurfaceIds) : SurfaceId :=
  ids.numbered (ids.firstFree ids.issued ids.byId.size)

theorem surfaceFor?_nextId : ids.surfaceFor? ids.nextId = none :=
  ids.firstFree_free ids.issued

theorem bySurface_idFor (unnamed : ids.bySurface.find? surface = none) :
    (ids.idFor surface).1.bySurface.find? other =
      if other = surface then some ids.nextId else ids.bySurface.find? other := by
  rw [idFor, unnamed]
  exact KeyMap.find?_insert ..

theorem surfaceFor?_idFor (unnamed : ids.bySurface.find? surface = none) :
    (ids.idFor surface).1.surfaceFor? candidate =
      if candidate = ids.nextId then some surface else ids.surfaceFor? candidate := by
  rw [idFor, unnamed]
  exact KeyMap.find?_insert ..

theorem idFor_paired (paired : ids.Paired) : (ids.idFor surface).1.Paired := by
  cases known : ids.bySurface.find? surface with
  | some id =>
      rw [idFor_of_named known]
      exact paired
  | none =>
      intro other candidate
      rw [bySurface_idFor known, surfaceFor?_idFor known]
      have linked := paired other candidate
      by_cases own : other = surface
      · subst own
        rw [known] at linked
        by_cases equal : candidate = ids.nextId
        · simp [equal]
        · simp [equal, Ne.symm equal, ← linked]
      · by_cases equal : candidate = ids.nextId
        · subst equal
          rw [surfaceFor?_nextId] at linked
          simp [own, Ne.symm own, linked]
        · simp [own, equal, linked]

theorem name_paired (paired : ids.Paired) (requested : Option SurfaceId) :
    (ids.name requested surface).1.Paired := by
  cases requested with
  | some id => exact associate_paired paired
  | none => exact idFor_paired paired

theorem idFor_of_unnamed (unnamed : ids.bySurface.find? surface = none) :
    (ids.idFor surface).2 = ids.nextId := by
  rw [idFor, unnamed]
  rfl

/-- Once a surface is named its id leads to it, and no other id does. -/
theorem surfaceFor?_name (paired : ids.Paired) (requested : Option SurfaceId) :
    (ids.name requested surface).1.surfaceFor? candidate =
      if candidate = (ids.name requested surface).2 then some surface
      else if ids.surfaceFor? candidate = some surface then none
      else ids.surfaceFor? candidate := by
  cases requested with
  | some id => exact surfaceFor?_associate paired
  | none =>
      have linked := paired surface candidate
      cases known : ids.bySurface.find? surface with
      | some id =>
          rw [known, Option.some.injEq] at linked
          simp only [name, idFor_of_named known, ← linked]
          by_cases equal : candidate = id
          · rw [if_pos equal, linked.1 equal.symm]
          · rw [if_neg equal, if_neg (Ne.symm equal)]
      | none =>
          have elsewhere : ids.surfaceFor? candidate ≠ some surface := by
            intro taken
            rw [linked.2 taken] at known
            contradiction
          simp only [name, idFor_of_unnamed known, surfaceFor?_idFor known, if_neg elsewhere]

/-- Who goes by which id after a surface was named and forgotten again: the id that was asked for
and the one that the surface had are free, and all others are as before. -/
theorem surfaceFor?_forget_name (paired : ids.Paired) (requested : Option SurfaceId) :
    ((ids.name requested surface).1.forget surface).surfaceFor? candidate =
      if requested = some candidate ∨ ids.surfaceFor? candidate = some surface then none
      else ids.surfaceFor? candidate := by
  rw [surfaceFor?_forget (name_paired paired requested)]
  cases requested with
  | some id =>
      simp only [name, surfaceFor?_associate paired, Option.some.injEq]
      by_cases equal : candidate = id
      · simp [equal]
      · by_cases taken : ids.surfaceFor? candidate = some surface
        · simp [equal, taken]
        · simp [equal, Ne.symm equal, taken]
  | none =>
      cases known : ids.bySurface.find? surface with
      | some id => simp [name, idFor_of_named known]
      | none =>
          simp only [name, surfaceFor?_idFor known]
          by_cases equal : candidate = ids.nextId
          · simp [equal, surfaceFor?_nextId]
          · simp [equal]

end AppLifecycle.SurfaceIds
