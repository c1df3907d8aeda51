import Variadic.Text.Char

/-!
# Quoted text

A text written as a string literal. Characters that would not show, or would attach to their
neighbours, are named by number; an apostrophe needs no escape.
-/

namespace Variadic.Text

/-- How one character is written, given the text behind it. A NUL in front of an octal digit takes
the longer form, so that it cannot be mistaken for an octal number. -/
def escapeChar (c : Char) (behind : List Char) : List Char :=
  match c with
  | '\x00' =>
    if behind.head?.any fun d => '0' ≤ d && d ≤ '7' then ['\\', 'x', '0', '0'] else ['\\', '0']
  | '\t' => ['\\', 't']
  | '\n' => ['\\', 'n']
  | '\r' => ['\\', 'r']
  | '"' => ['\\', '"']
  | '\\' => ['\\', '\\']
  | c =>
    if isHidden c then ['\\', 'u', '\x7b'] ++ Nat.toDigits 16 c.toNat ++ ['\x7d'] else [c]

def escapeAll : List Char → List Char
  | [] => []
  | c :: cs => escapeChar c cs ++ escapeAll cs

/-- The text as a string literal. -/
def quote (text : String) : String :=
  String.ofList ('"' :: escapeAll text.toList ++ ['"'])

end Variadic.Text
