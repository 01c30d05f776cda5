import AppLifecycle.Json.Token

/-!
# From tokens to outlines

The tokens of a text are taken one by one. What is open is kept as a list of frames, the
innermost first; the position says what is due next. Where a token does not fit, or the text
ends, the open lists are closed with the fault at their ends.
-/

namespace AppLifecycle.Json

/-- A list that is open while one of its values is read. -/
inductive Frame where
  /-- An array with the items so far, the last one first. -/
  | array (done : List Outline)
  /-- An object with the members so far, the last one first, and the key of the value that is
  due. -/
  | member (done : List (Key × Outline)) (key : Key)
  deriving Inhabited

/-- Where in the text one stands. -/
inductive Position where
  /-- A value is due. -/
  | valueDue (frames : List Frame)
  /-- An array has been opened. -/
  | firstItem (frames : List Frame)
  /-- An item of an array has ended. -/
  | afterItem (done : List Outline) (frames : List Frame)
  /-- An object has been opened. -/
  | firstKey (frames : List Frame)
  /-- A comma has followed a member. -/
  | nextKey (done : List (Key × Outline)) (frames : List Frame)
  /-- A key has been read, and a colon is due. -/
  | colon (done : List (Key × Outline)) (key : Key) (frames : List Frame)
  /-- A member of an object has ended. -/
  | afterMember (done : List (Key × Outline)) (frames : List Frame)
  /-- The outermost value has ended. -/
  | finished (value : Outline)
  deriving Inhabited

namespace Position

/-- Puts a value into the innermost open list. -/
def resume (value : Outline) : List Frame → Position
  | [] => finished value
  | .array done :: frames => afterItem (value :: done) frames
  | .member done key :: frames => afterMember ((key, value) :: done) frames

/-- Closes the open lists around a value where the text breaks off. -/
def breakOff (fault : Fault) (value : Outline) : List Frame → Outline
  | [] => value
  | .array done :: frames => breakOff fault (.array (done.reverse ++ [value]) (some fault)) frames
  | .member done key :: frames =>
      breakOff fault (.object (done.reverse ++ [(key, value)]) (some fault)) frames

/-- Takes a token where a value is due. Without a next position the text breaks off. -/
def takeValue (token : Token) (frames : List Frame) : Except Outline Position :=
  match token with
  | .openArray => .ok (firstItem frames)
  | .openObject => .ok (firstKey frames)
  | .null => .ok (resume .null frames)
  | .bool value => .ok (resume (.bool value) frames)
  | .number value => .ok (resume (.number value) frames)
  | .quoted value => .ok (resume (.string value) frames)
  | .brokenScalar fault => .error (breakOff fault (.brokenScalar fault) frames)
  | .brokenString fault => .error (breakOff fault (.brokenString fault) frames)
  | _ => .error (breakOff .malformed (.missing .malformed) frames)

/-- Breaks off where the key of a further member is due. -/
def breakKey (fault : Fault) (value : Outline) (done : List (Key × Outline))
    (frames : List Frame) : Outline :=
  breakOff fault (.object (done.reverse ++ [(.error fault.read, value)]) (some fault)) frames

/-- Takes a token. Without a next position the text breaks off. -/
def next (token : Token) : Position → Except Outline Position
  | valueDue frames => takeValue token frames
  | firstItem frames =>
      match token with
      | .closeArray => .ok (resume (.array [] none) frames)
      | _ => takeValue token (.array [] :: frames)
  | afterItem done frames =>
      match token with
      | .comma => .ok (valueDue (.array done :: frames))
      | .closeArray => .ok (resume (.array done.reverse none) frames)
      | _ => .error (breakOff .malformed (.array done.reverse (some .malformed)) frames)
  | firstKey frames =>
      match token with
      | .closeObject => .ok (resume (.object [] none) frames)
      | .quoted key => .ok (colon [] key frames)
      | .brokenString fault => .error (breakOff fault (.object [] (some fault)) frames)
      | _ => .error (breakOff .malformed (.object [] (some .malformed)) frames)
  | nextKey done frames =>
      match token with
      | .quoted key => .ok (colon done key frames)
      | .brokenString fault => .error (breakKey fault (.brokenString fault) done frames)
      | _ => .error (breakKey .malformed (.missing .malformed) done frames)
  | colon done key frames =>
      match token with
      | .colon => .ok (valueDue (.member done key :: frames))
      | _ => .error (breakOff .malformed (.missing .malformed) (.member done key :: frames))
  | afterMember done frames =>
      match token with
      | .comma => .ok (nextKey done frames)
      | .closeObject => .ok (resume (.object done.reverse none) frames)
      | _ => .error (breakOff .malformed (.object done.reverse (some .malformed)) frames)
  | finished value => .error value

/-- The outline of a text that ends here. -/
def atEnd : Position → Outline
  | valueDue frames => breakOff .unfinished (.missing .unfinished) frames
  | firstItem frames => breakOff .unfinished (.array [] (some .unfinished)) frames
  | afterItem done frames => breakOff .unfinished (.array done.reverse (some .unfinished)) frames
  | firstKey frames => breakOff .unfinished (.object [] (some .unfinished)) frames
  | nextKey done frames => breakKey .unfinished (.missing .unfinished) done frames
  | colon done key frames =>
      breakOff .unfinished (.missing .unfinished) (.member done key :: frames)
  | afterMember done frames =>
      breakOff .unfinished (.object done.reverse (some .unfinished)) frames
  | finished value => value

end Position

/-- A text as a whole: the value it starts with, and whether anything follows. -/
structure Document where
  value : Outline
  /-- Whether something other than space stands behind the value. -/
  excess : Bool
  deriving Inhabited

namespace Document

/-- Takes the tokens that are left. -/
def ofTokens : Position → List Token → Document
  | position, [] => ⟨position.atEnd, false⟩
  | .finished value, _ :: _ => ⟨value, true⟩
  | position, token :: rest =>
      match position.next token with
      | .ok following => ofTokens following rest
      | .error value => ⟨value, false⟩

/-- The document of a text. -/
def ofText (text : List Char) : Document :=
  ofTokens (.valueDue []) (tokens text)

end Document

end AppLifecycle.Json
