/-
The tokens of a pattern, cut from left to right. What a token stands for is said here from the
finished list: the case region at a token is read off the last angle in front of it, and the
signs of the slots are looked up from the side of the slots.

Nothing here is read one character at a time. That the scanner arrives at the same elements is
shown apart.
-/
import InputMask.Proofs.Pattern.SetReading

namespace InputMask

def SlotKind.sign? : SlotKind → Bool → Option Char
  | letter, false => some 'l'
  | letter, true => some 'L'
  | alphanumeric, false => some 'a'
  | alphanumeric, true => some 'A'
  | any, false => some 'c'
  | any, true => some 'C'
  | hexDigit, false => some 'h'
  | hexDigit, true => some 'H'
  | binaryDigit, false => some 'b'
  | binaryDigit, true => some 'B'
  | digit, false => some '9'
  | digit, true => some '0'
  | signedDigit, false => some '#'
  | signedDigit, true => none

/-- The case of a slot that lies in a case region. The kinds without letters stay out of it. -/
def SlotKind.shiftIn (region : CaseShift) : SlotKind → CaseShift
  | letter | alphanumeric | any | hexDigit => region
  | binaryDigit | digit | signedDigit => .unchanged

theorem SlotKind.shiftIn_eq (region : CaseShift) (kind : SlotKind) :
    kind.shiftIn region = if kind.takesCase then region else .unchanged := by
  cases kind <;> rfl

namespace Pattern

theorem slotSign?_eq_some_iff (c : Char) (kind : SlotKind) (required : Bool) :
    slotSign? c = some (kind, required) ↔ kind.sign? required = some c := by
  constructor
  · intro read
    unfold slotSign? at read
    split at read <;> cases read <;> rfl
  · intro written
    cases kind <;> cases required <;> cases written <;> rfl

inductive Token where
  /-- A backslash and the character after it. -/
  | escape (c : Char)
  /-- A backslash with nothing after it. -/
  | backslash
  /-- The text between two brackets. -/
  | set (body : List Char)
  /-- The text after a bracket that is never closed. -/
  | openSet (body : List Char)
  | single (c : Char)
deriving DecidableEq

def cutSet? : List Char → Option (List Char × List Char)
  | [] => none
  | ']' :: rest => some ([], rest)
  | '\\' :: c :: rest => (cutSet? rest).map fun (body, later) => ('\\' :: c :: body, later)
  | c :: rest => (cutSet? rest).map fun (body, later) => (c :: body, later)

theorem cutSet?_eq_append {text body later : List Char} (cut : cutSet? text = some (body, later)) :
    text = body ++ ']' :: later := by
  induction text using cutSet?.induct generalizing body with
  | case1 => cases cut
  | case2 rest =>
      cases cut
      rfl
  | case3 c rest ih =>
      obtain ⟨⟨inner, after⟩, found, same⟩ := Option.map_eq_some_iff.mp cut
      cases same
      rw [ih found]
      rfl
  | case4 c rest noBracket noEscape ih =>
      rw [cutSet?] at cut
      · obtain ⟨⟨inner, after⟩, found, same⟩ := Option.map_eq_some_iff.mp cut
        cases same
        rw [ih found]
        rfl
      · exact noBracket
      · exact noEscape

namespace Token

def text : Token → List Char
  | escape c => ['\\', c]
  | backslash => ['\\']
  | set body => '[' :: (body ++ [']'])
  | openSet body => '[' :: body
  | single c => [c]

def cut : List Char → List Token
  | [] => []
  | ['\\'] => [backslash]
  | '\\' :: c :: rest => escape c :: cut rest
  | '[' :: rest =>
      match _found : cutSet? rest with
      | none => [openSet rest]
      | some (body, later) => set body :: cut later
  | c :: rest => single c :: cut rest
termination_by pattern => pattern.length
decreasing_by
  · simp only [List.length_cons]
    omega
  · rw [cutSet?_eq_append _found]
    simp only [List.length_cons, List.length_append]
    omega
  · simp only [List.length_cons]
    omega

section Cases

variable {c : Char} {rest body later : List Char}

theorem cut_openSet (missing : cutSet? rest = none) : cut ('[' :: rest) = [openSet rest] := by
  rw [cut, missing]

theorem cut_set (found : cutSet? rest = some (body, later)) :
    cut ('[' :: rest) = set body :: cut later := by
  rw [cut, found]

theorem cut_single (noBackslash : c ≠ '\\') (noBracket : c ≠ '[') :
    cut (c :: rest) = single c :: cut rest := by
  rw [cut]
  · exact fun isBackslash _ => noBackslash isBackslash
  · exact fun _ _ isBackslash _ => noBackslash isBackslash
  · exact noBracket

end Cases

/-- A text begins with a token or is empty. -/
@[elab_as_elim]
theorem cutInduction {motive : List Char → Prop} (nil : motive []) (backslash : motive ['\\'])
    (escape : ∀ c rest, motive rest → motive ('\\' :: c :: rest))
    (openSet : ∀ rest, cutSet? rest = none → motive ('[' :: rest))
    (set : ∀ rest body later, cutSet? rest = some (body, later) → motive later →
      motive ('[' :: rest))
    (single : ∀ c rest, c ≠ '\\' → c ≠ '[' → motive rest → motive (c :: rest))
    (pattern : List Char) : motive pattern := by
  induction pattern using cut.induct with
  | case1 => exact nil
  | case2 => exact backslash
  | case3 c rest ih => exact escape c rest ih
  | case4 rest missing => exact openSet rest missing
  | case5 rest body later found ih => exact set rest body later found ih
  | case6 c rest notLast notEscape noBracket ih =>
      refine single c rest ?_ noBracket ih
      intro isBackslash
      cases rest with
      | nil => exact notLast isBackslash rfl
      | cons d others => exact notEscape d others isBackslash rfl

theorem cut_flatMap_text (pattern : List Char) : (cut pattern).flatMap text = pattern := by
  induction pattern using cutInduction with
  | nil => simp only [cut, List.flatMap_nil]
  | backslash => simp only [cut, List.flatMap_cons, List.flatMap_nil, text, List.append_nil]
  | escape c rest ih =>
      simp only [cut, List.flatMap_cons, ih, text, List.cons_append, List.nil_append]
  | openSet rest missing =>
      rw [cut_openSet missing, List.flatMap_singleton]
      rfl
  | set rest body later found ih =>
      rw [cut_set found, List.flatMap_cons, ih, cutSet?_eq_append found]
      simp only [text, List.cons_append, List.append_assoc, List.nil_append]
  | single c rest noBackslash noBracket ih =>
      rw [cut_single noBackslash noBracket, List.flatMap_cons, ih]
      rfl

/-! ### What tokens stand for -/

def isAngle (token : Token) : Bool := token == single '<' || token == single '>'

def isMarker (token : Token) : Bool := token == single '!' || token.isAngle

def hasElement : Token → Bool
  | escape _ | set _ => true
  | backslash | openSet _ => false
  | single c => !(single c).isMarker

/-- The characters of a token apart from the one that its element takes the place of. -/
def surplus : Token → Nat
  | escape _ | backslash => 1
  | set body | openSet body => body.length + 1
  | single c => if (single c).isMarker then 1 else 0

theorem text_length (token : Token) :
    token.text.length = (if token.hasElement then 1 else 0) + token.surplus := by
  cases token with
  | escape c => rfl
  | backslash => rfl
  | set body => simp [text, hasElement, surplus]; omega
  | openSet body => simp [text, hasElement, surplus]
  | single c => cases marker : (single c).isMarker <;> simp [text, hasElement, surplus, marker]

/-- The case region behind some tokens. The last angle decides; a closing angle directly behind
an opening one ends the region. -/
def regionAfter (before : List Token) : CaseShift :=
  match before.reverse.dropWhile (fun token => !token.isAngle) with
  | single '<' :: _ => .lower
  | single '>' :: single '<' :: _ => .unchanged
  | single '>' :: _ => .upper
  | _ => .unchanged

inductive Denotes (region : CaseShift) : Token → Element → Prop where
  | escape (c : Char) : Denotes region (escape c) (.literal c)
  | set (body : List Char) (slot : SetSlot)
      (described : (SetText.ofText 1 (body ++ [']'])).Describes slot) :
      Denotes region (set body) (.charSet slot)
  | dateSeparator : Denotes region (single '/') .dateSeparator
  | timeSeparator : Denotes region (single ':') .timeSeparator
  | typed (kind : SlotKind) (required : Bool) (sign : Char)
      (written : kind.sign? required = some sign) :
      Denotes region (single sign) (.typed ⟨kind, required, kind.shiftIn region⟩)
  | literal (c : Char) (noDate : c ≠ '/') (noTime : c ≠ ':')
      (noSlot : ∀ kind required, SlotKind.sign? kind required ≠ some c) :
      Denotes region (single c) (.literal c)

def Sound : Token → Prop
  | set body => ∃ slot, (SetText.ofText 1 (body ++ [']'])).Describes slot
  | openSet _ => False
  | escape _ | backslash | single _ => True

def inRegions (before : List Token) : List Token → List (CaseShift × Token)
  | [] => []
  | token :: rest => (regionAfter before, token) :: inRegions (before ++ [token]) rest

def Spell (before tokens : List Token) (elements : List Element) : Prop :=
  List.Forall₂ (fun placed element => Denotes placed.1 placed.2 element)
    ((inRegions before tokens).filter (·.2.hasElement)) elements

end Token

end Pattern

end InputMask
