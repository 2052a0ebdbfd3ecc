import Tablewright.Http.Domain

/-! Which texts a request can be sent to, and which it can carry in a header.
-/

namespace Tablewright.Http

/-- The digits behind a host: none at all, or a number of sixteen bits.
-/
def isHostNumber (digits : List Char) : Bool :=
  digits.all Char.isDigit && digitsValue 10 digits < UInt16.size

/-- The part of a text before the first colon that stands outside brackets, and what follows the
colon.
-/
def splitAtColon (inside : Bool) : List Char → List Char × List Char
  | [] => ([], [])
  | c :: rest =>
    if c = ':' ∧ !inside then
      ([], rest)
    else
      let inside := c == '[' || inside && c != ']'
      let (before, after) := splitAtColon inside rest
      (c :: before, after)

/-- A host without the number behind it: groups of digits in brackets, or a domain.
-/
def isHostName (host : List Char) : Bool :=
  match host with
  | '[' :: rest => rest.getLast? == some ']' && isEightGroups rest.dropLast
  | _ => isDomain host

/-- A host, perhaps with a number behind a colon.
-/
def isHost (text : List Char) : Bool :=
  let (host, digits) := splitAtColon false text
  isHostName host && isHostNumber digits

/-- The part of an address that names its host, without what stands before an at sign.
-/
def authority (text : List Char) : List Char :=
  let slashes := ['/', '\\']
  let text := text.dropWhile slashes.contains
  let text := text.takeWhile fun c => !(slashes ++ ['?', '#']).contains c
  (text.reverse.takeWhile (· != '@')).reverse

/-- An absolute address of a web resource.
-/
def isAddress (text : String) : Bool :=
  let isBlank (c : Char) : Bool := c.toNat ≤ 0x20
  let chars := (text.toList.dropWhile isBlank).reverse.dropWhile isBlank
  let chars := chars.reverse.filter fun c => c != '\t' && c != '\n' && c != '\r'
  let scheme := String.ofList ((chars.takeWhile (· != ':')).map Char.toLower)
  (scheme == "http" || scheme == "https")
    && isHost (authority (chars.drop (scheme.length + 1)))

/-- A text that a header can carry: no control character but the tab.
-/
def isHeaderText (text : String) : Bool :=
  text.toList.all fun c => c == '\t' || 0x20 ≤ c.toNat && c.toNat != 0x7f

end Tablewright.Http
