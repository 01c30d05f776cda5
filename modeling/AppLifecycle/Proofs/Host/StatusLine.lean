import AppLifecycle.Host.Table

/-!
# Status lines

Nothing behind the command of a status line holds a closing parenthesis, so the last one ends the
command, whatever the command is made of. The state behind it is read as it stands, and alone
decides whether the process runs (`liveness_by_state`).
-/

namespace AppLifecycle.Host

variable {mark : Char} {rest : List Char}

theorem afterLast?_of_not_mem (absent : mark ∉ rest) : afterLast? mark rest = none := by
  induction rest with
  | nil => rfl
  | cons c rest ih =>
      rw [List.mem_cons, not_or] at absent
      rw [afterLast?, ih absent.2]
      exact if_neg (Ne.symm absent.1)

/-- The last mark is the one that no other follows, whatever stands before it. -/
theorem afterLast?_append (absent : mark ∉ rest) (before : List Char) :
    afterLast? mark (before ++ mark :: rest) = some rest := by
  induction before with
  | nil =>
      rw [List.nil_append, afterLast?, afterLast?_of_not_mem absent]
      exact if_pos rfl
  | cons c before ih => rw [List.cons_append, afterLast?, ih]

/-- A status line: any command, and a state and a remainder that leave the end of the command to be
seen. -/
structure StatusLine where
  pid : String
  command : String
  state : Char
  remainder : String
  state_visible : Text.isBlankChar state = false
  state_ne : state ≠ ')'
  remainder_open : ')' ∉ remainder.toList

namespace StatusLine

variable {line : StatusLine} {processes : ProcessTable} {pid : UInt32}

/-- What the host shows as `<pid> (<command>) <state><remainder>`. -/
def text (line : StatusLine) : String :=
  line.pid ++ " (" ++ line.command ++ ") " ++ String.singleton line.state ++ line.remainder

theorem toList_text (line : StatusLine) :
    line.text.toList = (line.pid ++ " (" ++ line.command).toList ++
      ')' :: ' ' :: line.state :: line.remainder.toList := by
  simp [text]

/-- The space before the state is passed over, and the state is not. -/
theorem dropBlank_state (line : StatusLine) :
    Text.dropBlank (' ' :: line.state :: line.remainder.toList) =
      line.state :: line.remainder.toList := by
  rw [Text.dropBlank, List.dropWhile_cons_of_pos (by decide),
    List.dropWhile_cons_of_neg (by simp [line.state_visible])]

theorem stateOfStat?_text (line : StatusLine) : stateOfStat? line.text = some line.state := by
  have last : ')' ∉ ' ' :: line.state :: line.remainder.toList := by
    simp [line.remainder_open, line.state_ne.symm]
  rw [stateOfStat?, toList_text, afterLast?_append last, Option.bind_some, dropBlank_state,
    List.head?_cons]

theorem isAlive_of_text (shown : processes.stat pid = some line.text) :
    processes.isAlive pid = (pid != 0 && !isGone line.state) := by
  rw [ProcessTable.isAlive]
  by_cases zero : pid = 0
  · simp [zero]
  · simp [zero, shown, stateOfStat?_text]

/-- The state of a status line is read whatever the command is made of, and alone decides whether
the process runs: one that has a number runs unless its state is one of three. So two processes are
judged alike if their lines have the same state, whatever else differs, as their commands may. -/
theorem liveness_by_state (line : StatusLine) :
    stateOfStat? line.text = some line.state ∧
    (∀ (processes : ProcessTable) (pid : UInt32), processes.stat pid = some line.text →
      (processes.isAlive pid = true ↔ pid ≠ 0 ∧ line.state ∉ ['Z', 'X', 'x'])) ∧
    (∀ (processes others : ProcessTable) (pid other : UInt32) (twin : StatusLine),
      twin.state = line.state → (other = 0 ↔ pid = 0) →
      processes.stat pid = some line.text → others.stat other = some twin.text →
      others.isAlive other = processes.isAlive pid) := by
  refine ⟨stateOfStat?_text line, fun processes pid shown => ?_,
    fun processes others pid other twin same numbered shown shown' => ?_⟩
  · rw [isAlive_of_text shown]
    simp [isGone, and_assoc]
  · have alike : (other != 0) = (pid != 0) := by
      rw [Bool.eq_iff_iff, bne_iff_ne, bne_iff_ne]
      exact not_congr numbered
    rw [isAlive_of_text shown, isAlive_of_text shown', same, alike]

/-- A command that imitates the end of a command and a state behind it. -/
theorem liveness_despite_imitation :
    let line : StatusLine := ⟨"7", "x) Z 1", 'R', " 1", by decide, by decide, by decide⟩
    line.text = "7 (x) Z 1) R 1" ∧ stateOfStat? line.text = some 'R' ∧
      ∀ processes : ProcessTable, processes.stat 7 = some line.text →
        processes.isAlive 7 = true := by
  intro line
  obtain ⟨state, alive, _⟩ := liveness_by_state line
  refine ⟨by decide, state, fun processes shown => ?_⟩
  exact (alive processes 7 shown).2 ⟨by decide, by decide⟩

end StatusLine

end AppLifecycle.Host
