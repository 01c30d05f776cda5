import Mathlib.Data.List.TakeWhile
import AppLifecycle.Script
import AppLifecycle.Proofs.Lines
import AppLifecycle.Proofs.Message

/-!
# Scripts are read back

A script that is written line by line is read back as its steps (`script_read_back`). A step may
be spelled in any way that needs no control character, blank lines and comments may stand
anywhere between the steps, and each line may end with a newline alone or with a carriage return
before it.
-/

namespace AppLifecycle

open Json (Datum Spells readDocument)

/-! ## Ends of lines -/

/-- How a line ends. -/
inductive LineEnd where
  | newline
  | returnNewline

namespace LineEnd

/-- The characters of the end. -/
def chars : LineEnd → List Char
  | newline => ['\n']
  | returnNewline => ['\r', '\n']

end LineEnd

namespace Text

variable {text : List Char}

/-- A line is read without its end, and without a carriage return that stands before it. -/
theorem lines_append_end (oneLine : '\n' ∉ text) (ending : LineEnd) (rest : List Char) :
    ∃ seen, (text = seen ∨ text = seen ++ ['\r']) ∧
      lines (text ++ (ending.chars ++ rest)) = seen :: lines rest := by
  cases ending with
  | returnNewline => exact ⟨text, .inl rfl, lines_append_returnNewline oneLine rest⟩
  | newline =>
      by_cases returned : text.getLast? = some '\r'
      · obtain ⟨seen, rfl⟩ := List.getLast?_eq_some_iff.1 returned
        rw [List.mem_append, not_or] at oneLine
        have seenLines := lines_append_returnNewline oneLine.1 rest
        exact ⟨seen, .inr rfl, by simpa [LineEnd.chars] using seenLines⟩
      · exact ⟨text, .inl rfl, lines_append_newline oneLine returned rest⟩

/-- A line without control characters is read as it is. -/
theorem Plain.lines_append_end (plain : Plain text) (ending : LineEnd) (rest : List Char) :
    lines (text ++ (ending.chars ++ rest)) = text :: lines rest := by
  obtain ⟨seen, rfl | rfl, seenLines⟩ := Text.lines_append_end plain.newline_not_mem ending rest
  · exact seenLines
  · have printable := plain '\r' (by simp)
    contradiction

/-- Text is blank in front of other text. -/
theorem dropBlank_append (blank : ∀ c ∈ text, isBlankChar c = true) (rest : List Char) :
    dropBlank (text ++ rest) = dropBlank rest :=
  List.dropWhile_append_of_pos blank

end Text

/-! ## Lines of scripts -/

/-- A line of a script. -/
inductive ScriptLine where
  /-- A step, spelled without control characters. -/
  | step (step : ScriptStep) (text : List Char) (plain : Text.Plain text)
      (spelled : Spells step.toJson.datum text)
  /-- Nothing but white space. -/
  | blank (margin : List Char) (blank : ∀ c ∈ margin, Text.isBlankChar c = true)
      (oneLine : '\n' ∉ margin)
  /-- Any text behind white space and a `#`. -/
  | comment (margin note : List Char) (blank : ∀ c ∈ margin, Text.isBlankChar c = true)
      (oneLine : '\n' ∉ margin ++ '#' :: note)

namespace ScriptLine

/-- The text of a line without its end. -/
def text : ScriptLine → List Char
  | step _ text _ _ => text
  | blank margin _ _ => margin
  | comment margin note _ _ => margin ++ '#' :: note

/-- The step on a line, if there is one. -/
def step? : ScriptLine → Option ScriptStep
  | step given .. => some given
  | blank .. | comment .. => none

/-- The line of a step that is written without spaces. -/
def ofStep (step : ScriptStep) : ScriptLine :=
  .step step step.toJson.compactChars (Json.plain_compactChars _) (Json.spells_compact rfl)

end ScriptLine

namespace Script

variable {line seen : List Char}

theorem isSkipped_append_blank (blank : ∀ c ∈ seen, Text.isBlankChar c = true) (line : List Char) :
    isSkipped (seen ++ line) = isSkipped line := by
  rw [isSkipped, isSkipped, Text.dropBlank_append blank]

/-- A carriage return at the end of a line does not matter to whether it is skipped. -/
theorem isSkipped_append_return (line : List Char) :
    isSkipped (line ++ ['\r']) = isSkipped line := by
  have whole : Text.dropBlank (line ++ ['\r']) =
      if (Text.dropBlank line).isEmpty then [] else Text.dropBlank line ++ ['\r'] := by
    rw [Text.dropBlank, List.dropWhile_append]
    rfl
  rw [isSkipped, isSkipped, whole]
  cases Text.dropBlank line <;> rfl

theorem isSkipped_blank (blank : ∀ c ∈ seen, Text.isBlankChar c = true) :
    isSkipped seen = true := by
  have same := isSkipped_append_blank blank []
  rwa [List.append_nil] at same

theorem isSkipped_comment (blank : ∀ c ∈ seen, Text.isBlankChar c = true) (note : List Char) :
    isSkipped (seen ++ '#' :: note) = true := by
  rw [isSkipped_append_blank blank]
  rfl

/-- A line is skipped if it is blank, or if the first character that is no white space starts a
comment. -/
theorem isSkipped_iff : isSkipped line = true ↔
    (∀ c ∈ line, Text.isBlankChar c = true) ∨
      ∃ margin note, line = margin ++ '#' :: note ∧ ∀ c ∈ margin, Text.isBlankChar c = true := by
  constructor
  · intro skipped
    have parts : line = line.takeWhile Text.isBlankChar ++ Text.dropBlank line :=
      List.takeWhile_append_dropWhile.symm
    have margin : ∀ c ∈ line.takeWhile Text.isBlankChar, Text.isBlankChar c = true :=
      fun _ => List.mem_takeWhile_imp
    rw [isSkipped] at skipped
    cases rest : Text.dropBlank line with
    | nil =>
        rw [rest, List.append_nil] at parts
        rw [parts]
        exact .inl margin
    | cons c note =>
        rw [rest] at parts skipped
        obtain rfl : c = '#' := of_decide_eq_true skipped
        exact .inr ⟨_, note, parts, margin⟩
  · rintro (blank | ⟨margin, note, rfl, blank⟩)
    · exact isSkipped_blank blank
    · exact isSkipped_comment blank note

/-- A line that spells an object is not skipped. -/
theorem isSkipped_of_spells {members : List (String × Datum)}
    (spelled : Spells (.object members) line) : isSkipped line = false := by
  cases spelled with
  | cons space first rest =>
      cases first with
      | openObject =>
          rw [isSkipped_append_blank]
          · rfl
          · intro c member
            have listed := space c member
            simp only [List.mem_cons, List.not_mem_nil, or_false] at listed
            rcases listed with rfl | rfl | rfl | rfl <;> rfl

end Script

/-! ## Steps -/

theorem BufferInfo.read_toJson (buffer : BufferInfo) :
    BufferInfo.read buffer.toJson.datum.outline = .ok buffer := by
  have width := Json.readUInt32_datum buffer.width
  have height := Json.readUInt32_datum buffer.height
  apply Json.Form.read_of_members
  · apply (Json.fillMembers_field widthField width rfl rfl).trans
    apply (Json.fillMembers_field heightField height rfl rfl).trans
    exact Json.fillMembers_field textureCapableField rfl rfl rfl
  · rfl

namespace ScriptStep

theorem read_authorize (pid : UInt32) (appId : String) :
    authorizeForm.read
      (Json.object [("pid", .number pid.toNat), ("appId", .string appId)]).datum.outline =
        .ok (authorize pid appId) := by
  apply Json.Form.read_of_members
  · apply (Json.fillMembers_field pidField (Json.readUInt32_datum pid) rfl rfl).trans
    exact Json.fillMembers_field appIdField rfl rfl rfl
  · rfl

theorem read_bindTexture (surface : SurfaceHandle) (buffer : BufferInfo) :
    bindTextureForm.read
      (Json.object [("surface", surface.toJson), ("buffer", buffer.toJson)]).datum.outline =
        .ok (bindTexture surface buffer) := by
  apply Json.Form.read_of_members
  · apply (Json.fillMembers_field surfaceField surface.read_toJson rfl rfl).trans
    exact Json.fillMembers_field bufferField buffer.read_toJson rfl rfl
  · rfl

/-- An entry is read by the reader that goes by its name. -/
theorem read_entry {name : String} {reader : Json.Reader ScriptStep} {content : Json}
    {step : ScriptStep}
    (named : (Json.findNamed entries (·.1) name).map (·.2) = .ok reader)
    (reads : reader content.datum.outline = .ok step) :
    read (Json.object [(name, content)]).datum.outline = .ok step := by
  simp [read, Json.readChoice, Json.datum, Json.memberData, Datum.outline, Datum.memberOutlines,
    named, reads, Json.readEnding, Json.orBroken, Except.mapError, bind, Except.bind, pure,
    Except.pure]

theorem read_toJson (step : ScriptStep) : read step.toJson.datum.outline = .ok step := by
  cases step with
  | compositor event =>
      have tells := CompositorEvent.tells_of_given (.written event)
      have reads : CompositorEvent.readAt 1 event.toJson.datum.outline = .ok event :=
        tells.readVariant_datum event.scalar_members
      apply read_entry rfl
      exact congrArg (Except.map compositor) reads
  | shell command =>
      have reads : ShellCommand.readAt 1 command.toJson.datum.outline = .ok command :=
        command.tells_members.readVariant_datum command.scalar_members
      apply read_entry rfl
      exact congrArg (Except.map shell) reads
  | authorize pid appId => exact read_entry rfl (read_authorize pid appId)
  | bindTexture surface buffer => exact read_entry rfl (read_bindTexture surface buffer)

/-- A step is read however it is spelled. -/
theorem readDocument_of_spells {step : ScriptStep} {text : List Char}
    (spelled : Spells step.toJson.datum text) : readDocument read text = .ok step := by
  rw [Json.readDocument_of_spells read spelled, read_toJson]

theorem isSkipped_of_spells {step : ScriptStep} {text : List Char}
    (spelled : Spells step.toJson.datum text) : Script.isSkipped text = false := by
  cases step <;> exact Script.isSkipped_of_spells spelled

end ScriptStep

/-! ## Whole scripts -/

namespace Script

open Text (lines)

theorem parseLines_of_skipped (skipped : isSkipped line = true) (rest : List (List Char))
    (number : Nat) : parseLines number (line :: rest) = parseLines (number + 1) rest := by
  rw [parseLines, if_pos skipped]

/-- A line adds its step, if it has one, to those of the rest of the script. -/
theorem parseLines_line (line : ScriptLine) (ending : LineEnd) (rest : List Char) (number : Nat) :
    parseLines number (lines (line.text ++ (ending.chars ++ rest))) =
      (parseLines (number + 1) (lines rest)).map (line.step?.toList ++ ·) := by
  have kept : ∀ parsed : Except ScriptError (List ScriptStep), parsed.map ([] ++ ·) = parsed := by
    rintro (_ | _) <;> rfl
  cases line with
  | step step text plain spelled =>
      rw [ScriptLine.text, plain.lines_append_end, parseLines,
        ScriptStep.isSkipped_of_spells spelled, ScriptStep.readDocument_of_spells spelled]
      rfl
  | blank margin blank oneLine =>
      obtain ⟨seen, same, seenLines⟩ := Text.lines_append_end oneLine ending rest
      have skipped : isSkipped seen = true := by
        have whole := isSkipped_blank blank
        rcases same with rfl | rfl
        · exact whole
        · rwa [isSkipped_append_return] at whole
      rw [ScriptLine.text, seenLines, parseLines_of_skipped skipped]
      exact (kept _).symm
  | comment margin note blank oneLine =>
      obtain ⟨seen, same, seenLines⟩ := Text.lines_append_end oneLine ending rest
      have skipped : isSkipped seen = true := by
        have whole := isSkipped_comment blank note
        rcases same with same | same <;> rw [same] at whole
        · exact whole
        · rwa [isSkipped_append_return] at whole
      rw [ScriptLine.text, seenLines, parseLines_of_skipped skipped]
      exact (kept _).symm

theorem parseLines_written (script : List (ScriptLine × LineEnd)) (number : Nat) :
    parseLines number (lines (script.flatMap fun line => line.1.text ++ line.2.chars)) =
      .ok (script.filterMap (·.1.step?)) := by
  induction script generalizing number with
  | nil => rfl
  | cons line script ih =>
      rw [List.flatMap_cons, List.append_assoc, parseLines_line, ih, List.filterMap_cons]
      cases line.1.step? <;> rfl

end Script

/-- A script is read back as the steps on its lines, in their order. Each step has a line, on
which it is written without spaces. -/
theorem script_read_back :
    (∀ script : List (ScriptLine × LineEnd),
      Script.parse (script.flatMap fun line => line.1.text ++ line.2.chars) =
        .ok (script.filterMap (·.1.step?))) ∧
      ∀ step : ScriptStep, ∃ line : ScriptLine,
        line.text = step.toJson.compactChars ∧ line.step? = some step := by
  constructor
  · intro script
    exact Script.parseLines_written script 1
  · intro step
    exact ⟨.ofStep step, rfl, rfl⟩

end AppLifecycle
