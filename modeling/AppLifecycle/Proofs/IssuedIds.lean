import AppLifecycle.Proofs.SurfaceIds

/-!
# Ids that are issued

The table issues ids of ascending numbers, so none is issued twice, and it skips ids that lead
somewhere. Nothing but the number of the last one is kept of ids that lead nowhere any more. So an
id that was handed in and given up again is not skipped: it is issued like a new one as soon as
its number is the next (`issued_id_new`). There are never more numbers than there were calls
(`issued_le_length`).
-/

namespace AppLifecycle

/-- A call to the table of ids. -/
inductive IdCall where
  | idFor (surface : SurfaceHandle)
  | associate (id : SurfaceId) (surface : SurfaceHandle)
  | forget (surface : SurfaceHandle)
  deriving DecidableEq

/-- The id that a call hands in. -/
def IdCall.handedIn? : IdCall → Option SurfaceId
  | associate id _ => some id
  | _ => none

namespace SurfaceIds

variable {ids : SurfaceIds} {call : IdCall} {id : SurfaceId}

/-- The table after a call. -/
def obey (ids : SurfaceIds) : IdCall → SurfaceIds
  | .idFor surface => (ids.idFor surface).1
  | .associate id surface => ids.associate id surface
  | .forget surface => ids.forget surface

/-- The table after calls, one after the other. -/
def obeyAll (ids : SurfaceIds) (calls : List IdCall) : SurfaceIds :=
  calls.foldl obey ids

/-- The id that a call issues: one for a surface that has none. -/
def issue? (ids : SurfaceIds) : IdCall → Option SurfaceId
  | .idFor surface =>
      if (ids.bySurface.find? surface).isNone then some (ids.idFor surface).2 else none
  | _ => none

/-- The ids that calls issue, in order. -/
def issuedBy (ids : SurfaceIds) : List IdCall → List SurfaceId
  | [] => []
  | call :: rest => (ids.issue? call).toList ++ (ids.obey call).issuedBy rest

/-- A number is the next: its id leads nowhere, and the ids of all numbers between the last one
issued and this one lead somewhere. -/
structure IsNext (ids : SurfaceIds) (number : Nat) : Prop where
  later : ids.issued < number
  free : ids.surfaceFor? (ids.numbered number) = none
  first : ∀ passed, ids.issued < passed → passed < number →
    ids.surfaceFor? (ids.numbered passed) ≠ none

theorem IsNext.unique {first second : Nat} (left : ids.IsNext first) (right : ids.IsNext second) :
    first = second := by
  rcases Nat.lt_trichotomy first second with before | equal | after
  · exact absurd left.free (right.first first left.later before)
  · exact equal
  · exact absurd right.free (left.first second right.later after)

/-! ## The number of the next id -/

theorem nextId_isNext (ids : SurfaceIds) :
    ∃ number, ids.nextId = ids.numbered number ∧ ids.IsNext number := by
  refine ⟨_, rfl, lt_firstFree .., surfaceFor?_nextId, ?_⟩
  intro passed after before free
  have taken := taken_of_lt_firstFree after before
  rw [KeyMap.contains_eq_false_iff.2 free] at taken
  contradiction

/-! ## One call -/

/-- What calls make of a table: it issues ids that start alike, and the last number never
falls. -/
structure Grown (ids later : SurfaceIds) : Prop where
  stem : later.stem = ids.stem
  issued : ids.issued ≤ later.issued

theorem Grown.refl (ids : SurfaceIds) : Grown ids ids :=
  ⟨rfl, Nat.le_refl _⟩

theorem Grown.trans {first second third : SurfaceIds} (left : Grown first second)
    (right : Grown second third) : Grown first third where
  stem := right.stem.trans left.stem
  issued := Nat.le_trans left.issued right.issued

theorem Grown.numbered {later : SurfaceIds} (grown : Grown ids later) (number : Nat) :
    later.numbered number = ids.numbered number := by
  rw [SurfaceIds.numbered, SurfaceIds.numbered, grown.stem]

theorem issued_idFor {surface : SurfaceHandle} (unnamed : ids.bySurface.find? surface = none) :
    (ids.idFor surface).1.issued = ids.firstFree ids.issued ids.byId.size := by
  rw [idFor, unnamed]

theorem grown_forget (ids : SurfaceIds) (surface : SurfaceHandle) :
    Grown ids (ids.forget surface) := by
  unfold forget
  split <;> exact ⟨rfl, Nat.le_refl _⟩

theorem grown_obey (ids : SurfaceIds) (call : IdCall) : Grown ids (ids.obey call) := by
  cases call with
  | idFor surface =>
      cases known : ids.bySurface.find? surface with
      | some id =>
          rw [obey, idFor_of_named known]
          exact .refl ids
      | none =>
          constructor
          · rw [obey, idFor, known]
          · rw [obey, issued_idFor known]
            exact Nat.le_of_lt (lt_firstFree ..)
  | associate id surface =>
      have forgotten := grown_forget ids surface
      exact ⟨forgotten.stem, forgotten.issued⟩
  | forget surface => exact grown_forget ids surface

/-- The id that is issued carries the next number, which is the last one then. -/
theorem issue?_eq_some (issued : ids.issue? call = some id) :
    id = ids.numbered (ids.obey call).issued ∧ ids.IsNext (ids.obey call).issued := by
  cases call with
  | associate id surface | forget surface => contradiction
  | idFor surface =>
      cases known : ids.bySurface.find? surface with
      | some id => simp [issue?, known] at issued
      | none =>
          simp only [issue?, known, Option.isNone_none, if_true, Option.some.injEq,
            idFor_of_unnamed known] at issued
          obtain ⟨number, carried, next⟩ := ids.nextId_isNext
          have last : (ids.obey (.idFor surface)).issued = number := by
            rw [obey, issued_idFor known]
            exact numbered_injective carried
          rw [last, ← issued]
          exact ⟨carried, next⟩

theorem obey_paired (paired : ids.Paired) : (ids.obey call).Paired := by
  cases call with
  | idFor surface => exact idFor_paired paired
  | associate id surface => exact associate_paired paired
  | forget surface => exact forget_paired paired

/-! ## Calls one after the other -/

theorem grown_obeyAll (ids : SurfaceIds) (calls : List IdCall) : Grown ids (ids.obeyAll calls) := by
  induction calls generalizing ids with
  | nil => exact .refl ids
  | cons call rest ih => exact (grown_obey ids call).trans (ih _)

theorem obeyAll_paired (paired : ids.Paired) (calls : List IdCall) :
    (ids.obeyAll calls).Paired := by
  induction calls generalizing ids with
  | nil => exact paired
  | cons call rest ih => exact ih (obey_paired paired)

/-- Every id that was issued carries a number that is not above the last one. -/
theorem numbered_of_mem_issuedBy (ids : SurfaceIds) (calls : List IdCall)
    (member : id ∈ ids.issuedBy calls) :
    ∃ number ≤ (ids.obeyAll calls).issued, id = (ids.obeyAll calls).numbered number := by
  induction calls generalizing ids with
  | nil => contradiction
  | cons call rest ih =>
      rcases List.mem_append.1 member with now | later
      · obtain ⟨carried, _⟩ := issue?_eq_some (Option.mem_toList.1 now)
        refine ⟨_, (grown_obeyAll (ids.obey call) rest).issued, carried.trans ?_⟩
        exact ((grown_obeyAll ids (call :: rest)).numbered _).symm
      · exact ih (ids.obey call) later

/-- After any calls on a fresh table, a surface to which no id leads gets an id that was never
issued before and leads nowhere. It was handed in before exactly if the id of the next number
was. -/
theorem issued_id_new (stem : String) (calls : List IdCall) (surface : SurfaceHandle)
    (unnamed : ∀ id, ((withStem stem).obeyAll calls).surfaceFor? id ≠ some surface) :
    let table := (withStem stem).obeyAll calls
    let id := (table.idFor surface).2
    id ∉ (withStem stem).issuedBy calls ∧
      table.surfaceFor? id = none ∧
      (id ∈ calls.filterMap IdCall.handedIn? ↔
        ∃ number, table.IsNext number ∧
          table.numbered number ∈ calls.filterMap IdCall.handedIn?) := by
  intro table id
  have paired : table.Paired := obeyAll_paired (withStem_paired stem) calls
  have issued : id = table.nextId := idFor_of_unnamed ((paired.unnamed_iff surface).2 unnamed)
  obtain ⟨number, carried, next⟩ := table.nextId_isNext
  rw [issued, carried]
  refine ⟨?_, next.free, ?_⟩
  · intro member
    obtain ⟨former, below, same⟩ := numbered_of_mem_issuedBy (withStem stem) calls member
    have equal := numbered_injective same
    have above : ((withStem stem).obeyAll calls).issued < number := next.later
    omega
  · constructor
    · intro handed
      exact ⟨number, next, handed⟩
    · rintro ⟨other, nextToo, handed⟩
      rw [next.unique nextToo]
      exact handed

/-! ## How far the numbers go -/

/-- An id that leads somewhere after a call led somewhere before, or the call has issued it, or it
was handed in. -/
theorem used_before_or_new (paired : ids.Paired)
    (used : (ids.obey call).surfaceFor? id ≠ none) :
    ids.surfaceFor? id ≠ none ∨ ids.issue? call = some id ∨ call.handedIn? = some id := by
  cases call with
  | idFor surface =>
      cases known : ids.bySurface.find? surface with
      | some former =>
          rw [obey, idFor_of_named known] at used
          exact .inl used
      | none =>
          rw [obey, surfaceFor?_idFor known] at used
          split at used
          · rename_i next
            exact .inr (.inl (by simp [issue?, known, idFor_of_unnamed known, next]))
          · exact .inl used
  | associate handed surface =>
      rw [obey, surfaceFor?_associate paired] at used
      split at used
      · rename_i same
        exact .inr (.inr (congrArg some same.symm))
      · split at used
        · contradiction
        · exact .inl used
  | forget surface =>
      rw [obey, surfaceFor?_forget paired] at used
      split at used
      · contradiction
      · exact .inl used

/-- A call counts up to the id that it issues, over ids that lead somewhere. -/
theorem counted_before_or_used {number : Nat} (counted : number ≤ (ids.obey call).issued) :
    number ≤ ids.issued ∨ ids.surfaceFor? (ids.numbered number) ≠ none ∨
      ids.issue? call = some (ids.numbered number) := by
  cases issuing : ids.issue? call with
  | some id =>
      obtain ⟨carried, next⟩ := issue?_eq_some issuing
      rcases Nat.lt_or_eq_of_le counted with before | last
      · rcases Nat.lt_or_ge ids.issued number with after | former
        · exact .inr (.inl (next.first number after before))
        · exact .inl former
      · exact .inr (.inr (by rw [carried, last]))
  | none =>
      have still : (ids.obey call).issued = ids.issued := by
        cases call with
        | idFor surface =>
            cases known : ids.bySurface.find? surface with
            | some id => rw [obey, idFor_of_named known]
            | none => simp [issue?, known] at issuing
        | associate id surface => exact issued_forget
        | forget surface => exact issued_forget
      exact .inl (still ▸ counted)

/-- Each number that calls count up to was counted before, or its id led somewhere before, or is
one that the calls have issued or handed in. -/
theorem counted_used (paired : ids.Paired) (calls : List IdCall) {number : Nat}
    (counted : number ≤ (ids.obeyAll calls).issued) :
    number ≤ ids.issued ∨ ids.surfaceFor? (ids.numbered number) ≠ none ∨
      ids.numbered number ∈ ids.issuedBy calls ++ calls.filterMap IdCall.handedIn? := by
  induction calls generalizing ids with
  | nil => exact .inl counted
  | cons call rest ih =>
      have same : (ids.obey call).numbered number = ids.numbered number :=
        (grown_obey ids call).numbered number
      have issued (now : ids.issue? call = some (ids.numbered number)) :
          ids.numbered number ∈
            ids.issuedBy (call :: rest) ++ (call :: rest).filterMap IdCall.handedIn? := by
        simp [issuedBy, now]
      rcases ih (obey_paired paired) counted with before | used | new
      · rcases counted_before_or_used before with before | used | now
        · exact .inl before
        · exact .inr (.inl used)
        · exact .inr (.inr (issued now))
      · rw [same] at used
        rcases used_before_or_new paired used with used | now | handed
        · exact .inr (.inl used)
        · exact .inr (.inr (issued now))
        · exact .inr (.inr (by simp [handed]))
      · rw [same] at new
        refine .inr (.inr ?_)
        rcases List.mem_append.1 new with later | later
        · exact List.mem_append_left _ (List.mem_append_right _ later)
        · rw [List.filterMap_cons]
          apply List.mem_append_right
          split
          · exact later
          · exact List.mem_cons_of_mem _ later

/-- A call issues an id or hands one in, or does neither. -/
theorem length_used_le (ids : SurfaceIds) (calls : List IdCall) :
    (ids.issuedBy calls ++ calls.filterMap IdCall.handedIn?).length ≤ calls.length := by
  induction calls generalizing ids with
  | nil => exact Nat.le_refl 0
  | cons call rest ih =>
      have later := ih (ids.obey call)
      rw [List.length_append] at later ⊢
      have now : (ids.issue? call).toList.length + call.handedIn?.toList.length ≤ 1 := by
        cases call with
        | idFor surface =>
            cases known : ids.bySurface.find? surface <;> simp [issue?, IdCall.handedIn?, known]
        | associate id surface | forget surface => simp [issue?, IdCall.handedIn?]
      have handed : ((call :: rest).filterMap IdCall.handedIn?).length =
          call.handedIn?.toList.length + (rest.filterMap IdCall.handedIn?).length := by
        rw [List.filterMap_cons]
        cases call.handedIn? <;> simp [Nat.add_comm]
      rw [handed, issuedBy, List.length_append, List.length_cons]
      omega

/-- The numbers of a fresh table go no further than there were calls: the ids of all numbers that
were counted are different, and a call has issued each one or handed it in. -/
theorem issued_le_length (stem : String) (calls : List IdCall) :
    ((withStem stem).obeyAll calls).issued ≤ calls.length := by
  have distinct : ((List.range ((withStem stem).obeyAll calls).issued).map fun number =>
      (withStem stem).numbered (number + 1)).Nodup := by
    apply List.nodup_range.map
    intro first second equal
    exact Nat.succ.inj (numbered_injective equal)
  have used : ((List.range ((withStem stem).obeyAll calls).issued).map fun number =>
      (withStem stem).numbered (number + 1)) ⊆
        (withStem stem).issuedBy calls ++ calls.filterMap IdCall.handedIn? := by
    intro id member
    obtain ⟨number, inside, rfl⟩ := List.mem_map.1 member
    rcases counted_used (withStem_paired stem) calls (List.mem_range.1 inside) with
      before | used | new
    · exact absurd before (Nat.not_succ_le_zero number)
    · exact absurd rfl used
    · exact new
  have bound := (distinct.subperm used).length_le
  rw [List.length_map, List.length_range] at bound
  exact Nat.le_trans bound (length_used_le _ calls)

/-! ## An id that is handed in and given up -/

/-- The number of an id that is in use is skipped. -/
theorem issued_id_skips_used :
    let table := (withStem "win").obeyAll [.associate ⟨"win-1"⟩ ⟨10⟩]
    (∀ id, table.surfaceFor? id ≠ some ⟨11⟩) ∧
      (table.idFor ⟨11⟩).2 = ⟨"win-2"⟩ ∧
      table.surfaceFor? (table.idFor ⟨11⟩).2 = none := by
  intro table
  have unnamed : ∀ id, table.surfaceFor? id ≠ some ⟨11⟩ :=
    ((obeyAll_paired (withStem_paired "win") _).unnamed_iff _).1 (by decide)
  exact ⟨unnamed, by decide, (issued_id_new "win" _ ⟨11⟩ unnamed).2.1⟩

/-- An application hands an id in, and its window goes; the next window gets that id. -/
theorem reissue_of_handed_in_id :
    let calls := [.associate ⟨"win-1"⟩ ⟨10⟩, .forget ⟨10⟩]
    let table := (withStem "win").obeyAll calls
    table.issue? (.idFor ⟨11⟩) = some ⟨"win-1"⟩ ∧
      ⟨"win-1"⟩ ∈ calls.filterMap IdCall.handedIn? := by
  decide

end SurfaceIds

end AppLifecycle
