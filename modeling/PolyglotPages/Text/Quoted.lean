import PolyglotPages.Text.Visible

/-! A text shown between double quotes for a reader of an error message. Quotes and backslashes are
escaped, so the closing quote cannot be mistaken; what cannot be shown is given by its code
point. -/
namespace PolyglotPages.Text

def hexText (n : Nat) : String := String.ofList (Nat.toDigits 16 n)

def quoteChar (c : Char) : String :=
  if c = '"' then "\\\""
  else if c = '\\' then "\\\\"
  else if c = '\t' then "\\t"
  else if c = '\n' then "\\n"
  else if c = '\r' then "\\r"
  else if c.toNat = 0 then "\\0"
  else if isVisible c then c.toString
  else "\\u\x7b" ++ hexText c.toNat ++ "\x7d"

def quoted (s : String) : String :=
  "\"" ++ s.toList.foldr (fun c rest => quoteChar c ++ rest) "\""

end PolyglotPages.Text
