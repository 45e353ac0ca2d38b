/-
JSON values and their indented text. Every list and every object is spread over lines of its
own, two columns deeper than the bracket that opens it, except that an empty one stays closed.

In a string only the quotation mark, the backslash and the control characters below the space
are escaped; all other characters stand for themselves.
-/

namespace InputMask

inductive Json where
  | null
  | bool (value : Bool)
  /-- A number keeps the text it is written with. -/
  | number (literal : String)
  | string (text : List Char)
  | array (items : List Json)
  | object (fields : List (String × Json))
deriving Inhabited

namespace Json

/-- The written form of one character inside a string. -/
def escape : Char → List Char
  | '"' => ['\\', '"']
  | '\\' => ['\\', '\\']
  | '\x08' => ['\\', 'b']
  | '\t' => ['\\', 't']
  | '\n' => ['\\', 'n']
  | '\x0c' => ['\\', 'f']
  | '\r' => ['\\', 'r']
  | c =>
      if c.toNat < 0x20 then
        ['\\', 'u', '0', '0', (c.toNat / 16).digitChar, (c.toNat % 16).digitChar]
      else [c]

def quote (text : List Char) : List Char := '"' :: (text.flatMap escape ++ ['"'])

def newline (margin : Nat) : List Char := '\n' :: List.replicate margin ' '

def spread (margin : Nat) (opening closing : Char) : List (List Char) → List Char
  | [] => [opening, closing]
  | first :: others =>
      let inner := newline (margin + 2)
      opening :: (inner ++ first ++ others.flatMap (fun part => ',' :: (inner ++ part)) ++
        newline margin ++ [closing])

mutual

def indented (margin : Nat) : Json → List Char
  | null => "null".toList
  | bool value => (if value then "true" else "false").toList
  | number literal => literal.toList
  | string text => quote text
  | array items => spread margin '[' ']' (indentedItems (margin + 2) items)
  | object fields => spread margin '\x7b' '\x7d' (indentedFields (margin + 2) fields)

def indentedItems (margin : Nat) : List Json → List (List Char)
  | [] => []
  | item :: rest => indented margin item :: indentedItems margin rest

def indentedFields (margin : Nat) : List (String × Json) → List (List Char)
  | [] => []
  | (name, value) :: rest =>
      (quote name.toList ++ (':' :: ' ' :: indented margin value)) ::
        indentedFields margin rest

end

def render (value : Json) : List Char := indented 0 value

end Json

end InputMask
