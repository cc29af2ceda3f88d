import LedgerTrust.Url.Authority
import LedgerTrust.Url.Path

/-!
# URLs

A `Url` has a scheme, perhaps an authority, a path, and perhaps a query and a fragment; each
part is held as it is written. `Url.parse` reads an absolute URL and `Url.join` one relative to
a base: dot segments are resolved, characters that cannot stand in a part are encoded. A path
without a root belongs to a URL that is no base.
-/

namespace LedgerTrust

/-- A URL, with each part as it is written. -/
structure Url where
  scheme : String
  authority : Option Url.Authority
  path : Url.Path
  query : Option String
  fragment : Option String
  deriving DecidableEq, Repr

namespace Url

/-- The kind of the scheme. -/
def kind (u : Url) : Kind := kindOf u.scheme

/-! ### Writing -/

/-- A part that may be missing, after its mark. -/
def partAfter (mark : String) : Option String → String
  | some t => mark ++ t
  | none => ""

/-- The path of a request: the path and the query. -/
def requestPath (u : Url) : String := u.path.text ++ partAfter "?" u.query

/-- What stands between the scheme and the path. Without an authority, a path that starts with
two slashes is kept apart from one by a dot. -/
def authorityText (u : Url) : String :=
  match u.authority, u.path with
  | some a, _ => "//" ++ a.text
  | none, .segments ("" :: _ :: _) => "/."
  | none, _ => ""

/-- The written form of a URL. -/
def text (u : Url) : String :=
  u.scheme ++ ":" ++ u.authorityText ++ u.requestPath ++ partAfter "#" u.fragment

/-! ### Queries and fragments -/

/-- The query and the fragment of what follows a path. -/
def tail (k : Kind) (t : List Char) : Option String × Option String :=
  let encoded (set : EncodeSet) (t : List Char) := some (String.ofList (percentEncode set t))
  let fragment (t : List Char) : Option String :=
    match t with
    | '#' :: r => encoded fragmentSet r
    | _ => none
  match t with
  | '?' :: r =>
    (encoded (if k.isSpecial then specialQuerySet else querySet) (r.takeWhile (· != '#')),
      fragment (r.dropWhile (· != '#')))
  | t => (none, fragment t)

/-- The URL with the given parts, of which the path and what follows it are given by a text. -/
def withPath (scheme : String) (authority : Option Authority) (t : List Char)
    (path : List Char → Path) : Url :=
  let (query, fragment) := tail (kindOf scheme) (t.dropWhile (!endsPath ·))
  ⟨scheme, authority, path (t.takeWhile (!endsPath ·)), query, fragment⟩

/-! ### Reading -/

/-- The text without the controls and spaces around it, and without tabs and line ends. -/
def cleaned (s : String) : List Char :=
  let isOuter (c : Char) : Bool := c.toNat ≤ 0x20
  let inner := ((s.toList.dropWhile isOuter).reverse.dropWhile isOuter).reverse
  inner.filter fun c => c.toNat != 9 && c.toNat != 10 && c.toNat != 13

/-- The URL whose authority the text starts with. -/
def afterSlashes (scheme : String) (t : List Char) : Except ParseError Url := do
  let k := kindOf scheme
  let text := t.takeWhile (!k.endsAuthority ·)
  let authority ← Authority.parse scheme text
  return withPath scheme (some authority) (t.drop text.length) fun p => .segments (k.segments p)

/-- The scheme of files. -/
def fileScheme : String := "file"

/-- The URL of a file whose path is given by a text. A path on a drive belongs to no host. -/
def fileAt (authority : Authority) (held : List String) (t : List Char) : Url :=
  let path := t.takeWhile (!endsPath ·)
  withPath fileScheme
    (some (if (Kind.file.parts path).any isDrive then .empty else authority)) t
    fun p => .segments (Kind.file.resolve held p)

/-- Whether a text starts with the name of a drive. -/
def startsWithDrive (t : List Char) : Bool :=
  (driveLetter? (t.takeWhile (!Kind.file.endsAuthority ·))).isSome

/-- The URL of a file whose host the text starts with. A drive is no host. -/
def fileAfterSlashes (t : List Char) : Except ParseError Url := do
  if startsWithDrive t then return fileAt .empty [] t
  else
    let text := t.takeWhile (!Kind.file.endsAuthority ·)
    let authority ← Authority.parseFileHost text
    return fileAt authority [] (t.drop text.length)

/-- The root of the files of this machine. -/
def fileRoot : Url := ⟨fileScheme, some .empty, .segments [""], none, none⟩

/-- The URL of a file from the root of a base, which is the drive of the base if it has one. -/
def fileFromRoot (base : Url) (t : List Char) : Url :=
  fileAt (base.authority.getD .empty)
    (if startsWithDrive t then [] else (base.path.held.take 1).filter isDrive) t

/-- The URL of a file relative to a base. -/
def fileRelative (base : Url) (t : List Char) : Except ParseError Url :=
  match t with
  | [] => .ok { base with fragment := none }
  | c :: r =>
    if c == '#' then .ok { base with fragment := (tail .file t).2 }
    else if c == '?' then
      let (query, fragment) := tail .file t
      .ok { base with query := query, fragment := fragment }
    else if isAnySlash c then
      match r with
      | d :: r' =>
        if isAnySlash d then fileAfterSlashes r'
        else .ok (fileFromRoot base r)
      | [] => .ok (fileFromRoot base r)
    else if startsWithDrive t then .ok (fileAt .empty [] t)
    else .ok (fileAt (base.authority.getD .empty) (Kind.file.shortened base.path.held) t)

/-- The URL relative to a base that has a root and is no file. -/
def relative (base : Url) (t : List Char) : Except ParseError Url :=
  let k := base.kind
  let under (held : List String) (t : List Char) : Url :=
    withPath base.scheme base.authority t fun p => .segments (k.resolve held p)
  match t with
  | [] => .ok { base with fragment := none }
  | c :: r =>
    if c == '#' then .ok { base with fragment := (tail k t).2 }
    else if c == '?' then
      let (query, fragment) := tail k t
      .ok { base with query := query, fragment := fragment }
    else if isAnySlash c then
      match c, r with
      | '/', '/' :: r => afterSlashes base.scheme r
      | _, d :: _ =>
        if isAnySlash d then afterSlashes base.scheme (t.dropWhile isAnySlash)
        else .ok (under [] r)
      | _, [] => .ok (under [] r)
    else .ok (under (k.shortened base.path.held) t)

/-- The URL of a text after its scheme; `base` is the base that the text is relative to. -/
def afterScheme (base : Option Url) (scheme : String) (t : List Char) : Except ParseError Url :=
  let sameBase := base.filter (·.scheme = scheme)
  match kindOf scheme with
  | .file => fileRelative (sameBase.getD fileRoot) t
  | .web =>
    match sameBase, t.takeWhile isAnySlash with
    | some b, [] => relative b t
    | some b, [_] => relative b t
    | _, _ => afterSlashes scheme (t.dropWhile isAnySlash)
  | .other =>
    match t with
    | '/' :: '/' :: r => afterSlashes scheme r
    | '/' :: r =>
      .ok (withPath scheme none r fun p => .segments (Kind.other.resolve [] p))
    | t =>
      .ok (withPath scheme none t fun p => .rootless (String.ofList (percentEncode controlSet p)))

/-- The absolute URL of a text. -/
def parse (s : String) : Except ParseError Url :=
  match scheme? (cleaned s) with
  | some (scheme, t) => afterScheme none scheme t
  | none => .error .relativeWithoutBase

/-- The URL of a text relative to a base. -/
def join (base : Url) (s : String) : Except ParseError Url :=
  let t := cleaned s
  match scheme? t with
  | some (scheme, t) => afterScheme (some base) scheme t
  | none =>
    match t, base.path with
    | '#' :: _, _ => .ok { base with fragment := (tail base.kind t).2 }
    | _, .rootless _ => .error .relativeToRootless
    | _, .segments _ => if base.kind = .file then fileRelative base t else relative base t

end Url

end LedgerTrust
