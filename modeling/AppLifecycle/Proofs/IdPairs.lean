import AppLifecycle.Proofs.IssuedIds

/-!
# Pairs of surfaces and ids

The table of ids is a set of pairs in which no surface and no id stands twice, and that can be
searched from either side. A call changes the pairs of the surface and of the id that it is about
and leaves all others alone (`one_to_one_after`).

The search for a free number counts upwards and has no bound of its own. It ends because the ids
of different numbers differ and only finitely many are in use.
-/

namespace AppLifecycle.SurfaceIds

variable {ids : SurfaceIds} {surface other : SurfaceHandle} {id candidate : SurfaceId}

/-- A surface goes by an id. -/
def Pairs (ids : SurfaceIds) (surface : SurfaceHandle) (id : SurfaceId) : Prop :=
  ids.bySurface.find? surface = some id

/-- Counting upwards from a number one comes to the first whose id leads nowhere. -/
inductive CountsTo (ids : SurfaceIds) : Nat → Nat → Prop where
  | free {number : Nat} (free : ids.surfaceFor? (ids.numbered (number + 1)) = none) :
      CountsTo ids number (number + 1)
  | taken {number found : Nat} (taken : ids.surfaceFor? (ids.numbered (number + 1)) ≠ none)
      (later : CountsTo ids (number + 1) found) : CountsTo ids number found

/-- Two tables issue alike. -/
def SameIssue (ids later : SurfaceIds) : Prop :=
  later.stem = ids.stem ∧ later.issued = ids.issued

/-! ## The search for a number -/

theorem countsTo_of_first {number found : Nat} (later : number < found)
    (free : ids.surfaceFor? (ids.numbered found) = none)
    (first : ∀ passed, number < passed → passed < found →
      ids.surfaceFor? (ids.numbered passed) ≠ none) : ids.CountsTo number found := by
  induction gap : found - number generalizing number with
  | zero => omega
  | succ gap ih =>
      by_cases next : found = number + 1
      · rw [next] at free ⊢
        exact .free free
      · have taken := first (number + 1) (Nat.lt_succ_self number) (by omega)
        refine .taken taken (ih (by omega) ?_ (by omega))
        intro passed after before
        exact first passed (by omega) before

theorem IsNext.countsTo {number : Nat} (next : ids.IsNext number) :
    ids.CountsTo ids.issued number :=
  countsTo_of_first next.later next.free next.first

/-! ## What a call does to the pairs -/

theorem pairs_forget :
    (ids.forget surface).Pairs other candidate ↔ other ≠ surface ∧ ids.Pairs other candidate := by
  rw [Pairs, bySurface_forget]
  by_cases equal : other = surface
  · simp [equal]
  · simp [equal, Pairs]

theorem pairs_associate (paired : ids.Paired) :
    (ids.associate id surface).Pairs other candidate ↔
      (other = surface ∧ candidate = id) ∨
        (other ≠ surface ∧ candidate ≠ id ∧ ids.Pairs other candidate) := by
  rw [Pairs, bySurface_associate paired]
  by_cases equal : other = surface
  · simp [equal, eq_comm]
  · rw [if_neg equal]
    by_cases robbed : ids.surfaceFor? id = some other
    · have named := (paired other id).2 robbed
      simp [equal, robbed, Pairs, named, eq_comm]
    · have unnamed : ids.bySurface.find? other ≠ some id := fun named =>
        robbed ((paired other id).1 named)
      simp only [equal, robbed, if_false, Pairs, false_and, false_or, ne_eq, not_false_eq_true,
        true_and]
      constructor
      · intro named
        refine ⟨?_, named⟩
        rintro rfl
        exact unnamed named
      · exact And.right

/-- A surface that has no id gets one that no surface has. -/
theorem pairs_idFor (unnamed : ids.bySurface.find? surface = none) :
    (ids.idFor surface).1.Pairs other candidate ↔
      (other = surface ∧ candidate = ids.nextId) ∨ ids.Pairs other candidate := by
  rw [Pairs, bySurface_idFor unnamed]
  by_cases equal : other = surface
  · simp [equal, Pairs, unnamed, eq_comm]
  · simp [equal, Pairs]

theorem not_pairs_nextId (paired : ids.Paired) : ¬ ids.Pairs other ids.nextId := by
  intro named
  have led := (paired other ids.nextId).1 named
  rw [surfaceFor?_nextId] at led
  contradiction

theorem sameIssue_forget : SameIssue ids (ids.forget surface) :=
  ⟨stem_forget, issued_forget⟩

theorem sameIssue_associate : SameIssue ids (ids.associate id surface) :=
  ⟨stem_forget, issued_forget⟩

/-! ## Any calls on a fresh table -/

/-- After any calls on a fresh table both sides hold the same pairs, and look-ups answer by them.
Giving an id to a surface replaces the pairs in which either stands, forgetting a surface takes
its pair away, and asking for the id of a surface adds a pair exactly if it has none: with the id
of the first free number above the last one, to which the count comes. -/
theorem one_to_one_after (stem : String) (calls : List IdCall) :
    let table := (withStem stem).obeyAll calls
    (∀ surface id,
      table.bySurface.find? surface = some id ↔ table.byId.find? id = some surface) ∧
    (∀ surface id, table.surfaceFor? id = some surface ↔ table.Pairs surface id) ∧
    (∀ id surface,
      SameIssue table (table.associate id surface) ∧
      ∀ other candidate, (table.associate id surface).Pairs other candidate ↔
        (other = surface ∧ candidate = id) ∨
          (other ≠ surface ∧ candidate ≠ id ∧ table.Pairs other candidate)) ∧
    (∀ surface,
      SameIssue table (table.forget surface) ∧
      ∀ other candidate, (table.forget surface).Pairs other candidate ↔
        other ≠ surface ∧ table.Pairs other candidate) ∧
    (∀ surface,
      match table.bySurface.find? surface with
      | some id => table.idFor surface = (table, id)
      | none => ∃ number, table.CountsTo table.issued number ∧
          (table.idFor surface).2 = table.numbered number ∧
          (table.idFor surface).1.stem = table.stem ∧
          (table.idFor surface).1.issued = number ∧
          (∀ other, ¬ table.Pairs other (table.numbered number)) ∧
          ∀ other candidate, (table.idFor surface).1.Pairs other candidate ↔
            (other = surface ∧ candidate = table.numbered number) ∨
              table.Pairs other candidate) := by
  intro table
  have paired : table.Paired := obeyAll_paired (withStem_paired stem) calls
  refine ⟨paired, fun surface id => (paired surface id).symm, ?_, ?_, ?_⟩
  · intro id surface
    exact ⟨sameIssue_associate, fun other candidate => pairs_associate paired⟩
  · intro surface
    exact ⟨sameIssue_forget, fun other candidate => pairs_forget⟩
  · intro surface
    cases known : table.bySurface.find? surface with
    | some id => exact idFor_of_named known
    | none =>
        obtain ⟨number, carried, next⟩ := table.nextId_isNext
        have counted : table.firstFree table.issued table.byId.size = number :=
          numbered_injective carried
        refine ⟨number, next.countsTo, ?_, (grown_obey table (.idFor surface)).stem, ?_, ?_, ?_⟩
        · rw [idFor_of_unnamed known, carried]
        · rw [issued_idFor known, counted]
        · intro other
          rw [← carried]
          exact not_pairs_nextId paired
        · intro other candidate
          rw [← carried]
          exact pairs_idFor known

end AppLifecycle.SurfaceIds
