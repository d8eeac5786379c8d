import Compositor.Markdown.Escape
import Compositor.Markdown.Tree

/-! Links that need no brackets: addresses of pages and of mail in running text, and addresses in
angle brackets. -/

namespace Compositor.Markdown

/-- A host in running text: no blank, no punctuation but hyphens, and no underscore in its last two
labels unless it has very many. A host without dots counts only if `allowShort`. -/
structure HostScan where
  dots : Nat := 0
  /-- Underscores in the last label but one. -/
  before : Nat := 0
  /-- Underscores in the last label. -/
  last : Nat := 0

def isHostCharacter (character : Char) : Bool :=
  character == '-' || !(Text.isBlank character || Text.isPunctuation character)

def startsHost (allowShort : Bool) : HostScan → Text → Bool
  | scan, [] =>
      !((0 < scan.before || 0 < scan.last) && scan.dots ≤ 10) && (allowShort || 0 < scan.dots)
  | scan, character :: text =>
      if character = '\\' ∧ !text.isEmpty then startsHost allowShort scan text
      else if character = '_' then startsHost allowShort { scan with last := scan.last + 1 } text
      else if character = '.' then startsHost allowShort ⟨scan.dots + 1, scan.last, 0⟩ text
      else if isHostCharacter character then startsHost allowShort scan text
      else scan.before == 0 && scan.last == 0 && (allowShort || 0 < scan.dots)

def isTrailing (character : Char) : Bool :=
  ['?', '!', '.', ',', ':', '*', '_', '~', '\'', '"'].contains character

/-- A link, last character first, without what ends the sentence around it: punctuation, a
character reference, and closing parentheses without their opening ones. -/
def trimLinkEnd : (fuel : Nat) → (link : Text) → Text
  | 0, link => link
  | _, [] => []
  | fuel + 1, last :: link =>
      if isTrailing last then trimLinkEnd fuel link
      else if last = ';' then
        match link.dropWhile Char.isAlpha with
        | '&' :: rest =>
            if rest.length + 1 < link.length then trimLinkEnd fuel rest else trimLinkEnd fuel link
        | _ => trimLinkEnd fuel link
      else if last = ')' ∧ (last :: link).count '(' < (last :: link).count ')' then
        trimLinkEnd fuel link
      else last :: link

def cutLink (text : Text) : Text :=
  let link := (text.takeWhile (! isSpace ·)).takeWhile (· != '<')
  (trimLinkEnd link.length link.reverse).reverse

/-- A link found around a place: how many characters before the place belong to it, and its text
after the place. -/
structure LinkFound where
  rewind : Nat
  text : Text

def schemes : List Text := [("http" : Text), ("https" : Text), ("ftp" : Text)]

/-- An address whose scheme ends before a colon; `before` is the text before the colon, last
character first. -/
def findUrl? (before : Text) : (text : Text) → Option LinkFound
  | ':' :: '/' :: '/' :: rest =>
      let scheme := (before.takeWhile Char.isAlpha).reverse
      if schemes.contains scheme && !rest.isEmpty && startsHost true {} rest then
        some ⟨scheme.length, cutLink (':' :: '/' :: '/' :: rest)⟩
      else none
  | _ => none

def findWww? (before text : Text) : Option LinkFound :=
  let mayStart := match before with
    | [] => true
    | character :: _ => isSpace character || ['*', '_', '~', '(', '['].contains character
  if mayStart && Text.startsWith "www." text && startsHost false {} text then
    some ⟨0, cutLink text⟩
  else none

def isLocalCharacter (character : Char) : Bool :=
  character.isAlphanum || ['.', '+', '-', '_'].contains character

structure LocalPart where
  length : Nat := 0
  hasScheme : Bool := false
  isXmpp : Bool := false

def readLocalPart : LocalPart → (before : Text) → LocalPart
  | part, [] => part
  | part, character :: before =>
      let scheme := (before.takeWhile Char.isAlpha).reverse
      if isLocalCharacter character then
        readLocalPart { part with length := part.length + 1 } before
      else if character = ':' ∧ scheme = "mailto".toList then
        readLocalPart { part with length := part.length + 1, hasScheme := true } before
      else if character = ':' ∧ scheme = "xmpp".toList then
        readLocalPart ⟨part.length + 1, true, true⟩ before
      else part

def readMailDomain? (isXmpp : Bool) : (length dots : Nat) → Text → Option (Nat × Nat)
  | length, dots, [] => some (length, dots)
  | length, dots, character :: text =>
      if character.isAlphanum then readMailDomain? isXmpp (length + 1) dots text
      else if character = '@' then none
      else if character = '.' ∧ (text.head?.map Char.isAlphanum).getD false then
        readMailDomain? isXmpp (length + 1) (dots + 1) text
      else if (character = '/' ∧ isXmpp) ∨ character = '-' ∨ character = '_' then
        readMailDomain? isXmpp (length + 1) dots text
      else some (length, dots)

structure MailFound extends LinkFound where
  url : Text

def findMail? (before text : Text) : Option MailFound :=
  let part := readLocalPart {} before
  match readMailDomain? part.isXmpp 0 0 (text.drop 1) with
  | none => none
  | some (length, dots) =>
      let address := text.take (length + 1)
      let last := address.getLast?.getD ' '
      if part.length = 0 || length = 0 || dots = 0 || !(last.isAlpha || last == '.') then none
      else
        let link := cutLink address
        if link.isEmpty then none
        else
          let full := (before.take part.length).reverse ++ link
          some { rewind := part.length, text := link,
                 url := if part.hasScheme then full else "mailto:" ++ full }

/-- A text with the mail addresses in it as links. Addresses inside square brackets are left alone:
`depth` counts the brackets open before the place. `fuel` is at least the length of `text`. -/
def linkMailsFrom : (fuel : Nat) → (depth : Int) → (before text : Text) → List Inline
  | 0, _, before, _ => [.text before.reverse]
  | _, _, before, [] => if before.isEmpty then [] else [.text before.reverse]
  | fuel + 1, depth, before, character :: text =>
      let depth := if character = '[' then depth + 1 else if character = ']' then depth - 1 else depth
      let found? := if 0 < depth ∨ character ≠ '@' then none
        else findMail? before (character :: text)
      match found? with
      | none => linkMailsFrom fuel depth (character :: before) text
      | some found =>
          let shown := (before.take found.rewind).reverse ++ found.text
          .text (before.drop found.rewind).reverse :: .link found.url [.text shown] ::
            linkMailsFrom fuel 0 [] ((character :: text).drop found.text.length)

def linkMails (text : Text) : List Inline :=
  if text.isEmpty then [.text []] else linkMailsFrom (text.length + 1) 0 [] text

def isSchemeCharacter (character : Char) : Bool :=
  character.isAlphanum || ['.', '+', '-'].contains character

def readBracketedUrl? (text : Text) : Option (Text × Text) :=
  let scheme := text.takeWhile isSchemeCharacter
  match text.drop scheme.length with
  | ':' :: rest =>
      let path := rest.takeWhile fun character =>
        32 < character.toNat && character != '<' && character != '>'
      match rest.drop path.length with
      | '>' :: after =>
          if (scheme.head?.map Char.isAlpha).getD false && 2 ≤ scheme.length && scheme.length ≤ 32 then
            some (scheme ++ ':' :: path, after)
          else none
      | _ => none
  | _ => none

def isMailCharacter (character : Char) : Bool :=
  character.isAlphanum || r".!#$%&'*+/=?^_`{|}~-".toList.contains character

def isDomainLabel (label : Text) : Bool :=
  1 ≤ label.length && label.length ≤ 63 &&
    label.all (fun character => character.isAlphanum || character == '-') &&
    label.head? != some '-' && label.getLast? != some '-'

def readBracketedMail? (text : Text) : Option (Text × Text) :=
  let name := text.takeWhile isMailCharacter
  match text.drop name.length with
  | '@' :: rest =>
      let domain := rest.takeWhile (· != '>')
      match rest.drop domain.length with
      | _ :: after =>
          if !name.isEmpty && (Text.split (· == '.') domain).all isDomainLabel then
            some (name ++ '@' :: domain, after)
          else none
      | [] => none
  | _ => none

end Compositor.Markdown
