import Uxsp.Client.SyncClient
import Uxsp.Core.Signing
import Uxsp.Lib.Delimited
import Uxsp.Secure.Downloads
import Uxsp.Transport.Http

/-!
# Host keys

`normalize_host_key` names the host of a URL by what `urllib.parse.urlsplit` finds in it, after it
has put `https://` in front of a text that starts with none of four schemes.  The test is made on
the text as it is written, the schemes in lower case.  `urlsplit` is the function of the standard
library, `Url` a URL with an authority, whose text `urlsplit` takes apart.

* `urlsplit_text`: the parts of a URL are found.
* `normalizeHostKey_of_lower`, `normalizeHostKey_of_upper`: the key of a URL whose scheme is written
  in lower case is made of its host and port; any other is named by its scheme.
* `hostKeys_tell_iff`: which URLs have one key if and only if they have one host and port.
-/

namespace Uxsp.Client

open Secure Delimited Chunking

/-! ## `urllib.parse.urlsplit` -/

/-- What `urlsplit` leaves to `ipaddress`, `unicodedata` and `str.lower`. -/
structure UrlLibrary where
  /-- `_check_bracketed_host`. -/
  checkBracketedHost : Str → Except PyErr Unit
  /-- `_checknetloc` of a netloc that is not ASCII. -/
  checkNormalized : Str → Except PyErr Unit
  lower : Str → Str

def COLON : CodePoint := CodePoint.ofChar ':'
def SLASH : CodePoint := CodePoint.ofChar '/'
def AT_SIGN : CodePoint := CodePoint.ofChar '@'
def OPEN_BRACKET : CodePoint := CodePoint.ofChar '['
def CLOSE_BRACKET : CodePoint := CodePoint.ofChar ']'
def PERCENT : CodePoint := CodePoint.ofChar '%'

def isDigit (c : CodePoint) : Bool := 48 ≤ c.val && c.val ≤ 57

def isLetter (c : CodePoint) : Bool :=
  (65 ≤ c.val && c.val ≤ 90) || (97 ≤ c.val && c.val ≤ 122)

/-- `c in scheme_chars`. -/
def isSchemeChar (c : CodePoint) : Bool :=
  isLetter c || isDigit c || (Str.ofString "+-.").contains c

/-- `c in "/?#"`. -/
def endsNetloc (c : CodePoint) : Bool := (Str.ofString "/?#").contains c

/-- `c in _UNSAFE_URL_BYTES_TO_REMOVE`. -/
def isUnsafe (c : CodePoint) : Bool := c.val == 9 || c.val == 10 || c.val == 13

/-- The scheme and what follows it. -/
def splitScheme (lower : Str → Str) (url : Str) : Str × Str :=
  if COLON ∈ url ∧ (before COLON url).head?.any isLetter ∧ (before COLON url).all isSchemeChar then
    (lower (before COLON url), after COLON url)
  else ([], url)

/-- The netloc of what follows a scheme. -/
def splitNetloc (rest : Str) : Str :=
  if rest.take 2 = [SLASH, SLASH] then (rest.drop 2).takeWhile (!endsNetloc ·) else []

/-- `_hostinfo`. -/
def hostinfo (netloc : Str) : Str × Str :=
  let info := afterLast AT_SIGN netloc
  if OPEN_BRACKET ∈ info then
    (before CLOSE_BRACKET (after OPEN_BRACKET info),
      after COLON (after CLOSE_BRACKET (after OPEN_BRACKET info)))
  else (before COLON info, after COLON info)

/-- `hostname`: a zone keeps its case. -/
def splitHostname (lower : Str → Str) (netloc : Str) : Option Str :=
  if (hostinfo netloc).1 = [] then none
  else some (lower (before PERCENT (hostinfo netloc).1) ++
    (hostinfo netloc).1.dropWhile fun c => c ≠ PERCENT)

/-- The number that digits write. -/
def portNumber (digits : Str) : ℕ := digits.foldl (fun n c => 10 * n + (c.val - 48)) 0

/-- The number of a port that is not empty. -/
def readPort (port : Str) : Except PyErr ℕ := do
  ensure (port.all isDigit) ⟨.valueError,
    ["Port could not be cast to integer value as ", .repr (.str port)]⟩
  ensure (port.length ≤ Str.maxStrDigits) ⟨.valueError,
    ["Exceeds the limit (4300 digits) for integer string conversion: value has ",
      .int port.length, " digits; use sys.set_int_max_str_digits() to increase the limit"]⟩
  ensure (portNumber port ≤ 65535) ⟨.valueError, ["Port out of range 0-65535"]⟩
  return portNumber port

/-- `port`. -/
def splitPort (netloc : Str) : Except PyErr (Option ℕ) :=
  if (hostinfo netloc).2 = [] then .ok none else some <$> readPort (hostinfo netloc).2

/-- The netloc is checked: its brackets, and its characters if they are not ASCII. -/
def checkNetloc (L : UrlLibrary) (netloc : Str) : Except PyErr Unit := do
  ensure (OPEN_BRACKET ∈ netloc ↔ CLOSE_BRACKET ∈ netloc) ⟨.valueError, ["Invalid IPv6 URL"]⟩
  if OPEN_BRACKET ∈ netloc then
    L.checkBracketedHost (before CLOSE_BRACKET (after OPEN_BRACKET netloc))
  if netloc.any fun c => 128 ≤ c.val then L.checkNormalized netloc

/-- `urllib.parse.urlsplit`, as far as the host. -/
def urlsplit (L : UrlLibrary) (url : Str) : Except PyErr SplitUrl := do
  let url := (url.dropWhile fun c => c.val ≤ 32).filter (!isUnsafe ·)
  let parts := splitScheme L.lower url
  let netloc := splitNetloc parts.2
  checkNetloc L netloc
  return ⟨parts.1, splitHostname L.lower netloc, splitPort netloc⟩

/-! ## URLs with an authority -/

inductive UrlScheme
  | http
  | https
  | ws
  | wss
deriving DecidableEq

def UrlScheme.name : UrlScheme → Str
  | .http => "http"
  | .https => "https"
  | .ws => "ws"
  | .wss => "wss"

def UrlScheme.defaultPort : UrlScheme → ℕ
  | .http | .ws => 80
  | .https | .wss => 443

/-- A character inside a part of an authority: printable ASCII and no delimiter. -/
def isPlain (c : CodePoint) : Bool :=
  33 ≤ c.val && c.val ≤ 126 && !(Str.ofString "/?#@[]").contains c

/-- A host: a name or an IPv4 address, or a literal between brackets. -/
inductive UrlHost (L : UrlLibrary)
  | name (text : Str) (plain : ∀ c ∈ text, isPlain c = true) (whole : COLON ∉ text)
  | literal (text : Str) (plain : ∀ c ∈ text, isPlain c = true)
      (valid : L.checkBracketedHost text = .ok ())

variable {L : UrlLibrary}

def UrlHost.text : UrlHost L → Str
  | .name text .. | .literal text .. => text

def UrlHost.bracketed : UrlHost L → Bool
  | .name .. => false
  | .literal .. => true

/-- The host in a URL. -/
def UrlHost.written : UrlHost L → Str
  | .name text .. => text
  | .literal text .. => OPEN_BRACKET :: text ++ [CLOSE_BRACKET]

/-- Digits that write a port; there may be none. -/
structure IsPort (s : Str) : Prop where
  digits : ∀ c ∈ s, isDigit c = true
  short : s.length ≤ Str.maxStrDigits
  inRange : portNumber s ≤ 65535

/-- A host, and a port behind `:`. -/
structure Authority (L : UrlLibrary) where
  host : UrlHost L
  port : Option Str
  valid : ∀ s ∈ port, IsPort s

def portText : Option Str → Str
  | none => []
  | some digits => COLON :: digits

def Authority.text (a : Authority L) : Str := a.host.written ++ portText a.port

/-- The port that is written, if one is. -/
def Authority.explicitPort (a : Authority L) : Option ℕ :=
  match a.port with
  | none | some [] => none
  | some digits => some (portNumber digits)

/-- A host without regard to case, and a port. -/
@[ext] structure Origin where
  bracketed : Bool
  host : Str
  port : ℕ
deriving DecidableEq

def Authority.origin (a : Authority L) (defaultPort : ℕ) : Origin where
  bracketed := a.host.bracketed
  host := lowerAscii a.host.text
  port := a.explicitPort.getD defaultPort

/-- An absolute `http`, `https`, `ws` or `wss` URL. -/
structure Url (L : UrlLibrary) where
  scheme : UrlScheme
  /-- The scheme as it is written. -/
  spelled : Str
  spells : lowerAscii spelled = scheme.name
  userinfo : Option Str
  userinfoPlain : ∀ s ∈ userinfo, ∀ c ∈ s, isPlain c = true
  authority : Authority L
  /-- The path, the query and the fragment. -/
  tail : Str
  tailStarts : ∀ c ∈ tail.head?, endsNetloc c = true

namespace Url

variable (u : Url L)

def userinfoText : Option Str → Str
  | none => []
  | some info => info ++ [AT_SIGN]

def netloc : Str := userinfoText u.userinfo ++ u.authority.text

def text : Str := u.spelled ++ COLON :: SLASH :: SLASH :: (u.netloc ++ u.tail)

def origin : Origin := u.authority.origin u.scheme.defaultPort

/-- The scheme is written in lower case. -/
def LowerCase : Prop := u.spelled = u.scheme.name

instance : Decidable u.LowerCase := inferInstanceAs (Decidable (_ = _))

end Url

/-! ## The characters of a URL -/

/-- A character of a netloc. -/
def isNetlocChar (c : CodePoint) : Bool := 33 ≤ c.val && c.val ≤ 126 && !endsNetloc c

theorem isNetlocChar_of_plain {c : CodePoint} (plain : isPlain c = true) :
    isNetlocChar c = true := by
  simp only [isPlain, isNetlocChar, endsNetloc, Bool.and_eq_true, Bool.not_eq_true',
    List.contains_eq_mem, decide_eq_false_iff_not, decide_eq_true_eq] at plain ⊢
  refine ⟨plain.1, fun mem => plain.2 ?_⟩
  exact List.mem_append_left (Str.ofString "@[]") mem

theorem plain_of_digit {c : CodePoint} (digit : isDigit c = true) :
    isPlain c = true ∧ c ≠ COLON := by
  have range : 48 ≤ c.val ∧ c.val ≤ 57 := by simpa [isDigit] using digit
  have away : ∀ d : CodePoint, d.val < 48 ∨ 57 < d.val → c ≠ d := by
    rintro d far rfl
    omega
  refine ⟨?_, away COLON (by decide)⟩
  have few : ((Str.ofString "/?#@[]").all fun d => d.val < 48 || 57 < d.val) = true := by decide
  simp only [isPlain, Bool.and_eq_true, Bool.not_eq_true', List.contains_eq_mem,
    decide_eq_false_iff_not, decide_eq_true_eq]
  refine ⟨⟨by omega, by omega⟩, fun mem => ?_⟩
  have outside := List.all_eq_true.mp few c mem
  simp only [Bool.or_eq_true, decide_eq_true_eq] at outside
  omega

/-- A plain text has no delimiter. -/
theorem not_mem_of_plain {s : Str} {d : CodePoint} (plain : ∀ c ∈ s, isPlain c = true)
    (delimiter : isPlain d = false) : d ∉ s := by
  intro mem
  rw [plain d mem] at delimiter
  cases delimiter

/-- A character that is not a capital is there in lower case too. -/
theorem mem_of_mem_lowerAscii {s : Str} {c : CodePoint} (mem : c ∈ s) :
    (65 ≤ c.val ∧ c.val ≤ 90) ∨ c ∈ lowerAscii s := by
  by_cases upper : 65 ≤ c.val ∧ c.val ≤ 90
  · exact .inl upper
  · exact .inr (List.mem_map.mpr ⟨c, mem, dif_neg upper⟩)

theorem mem_portText {port : Option Str} {c : CodePoint} (mem : c ∈ portText port) :
    c = COLON ∨ ∃ s ∈ port, c ∈ s := by
  cases port with
  | none => cases mem
  | some s =>
      rcases List.mem_cons.mp mem with rfl | inside
      · exact .inl rfl
      · exact .inr ⟨s, rfl, inside⟩

theorem Authority.port_plain (a : Authority L) {c : CodePoint} (mem : c ∈ portText a.port) :
    isPlain c = true := by
  rcases mem_portText mem with rfl | ⟨s, here, inside⟩
  · decide
  · exact (plain_of_digit ((a.valid s here).digits c inside)).1

theorem UrlHost.plain (h : UrlHost L) : ∀ c ∈ h.text, isPlain c = true := by
  cases h with
  | name text plain whole => exact plain
  | literal text plain valid => exact plain

theorem UrlHost.mem_written {h : UrlHost L} {c : CodePoint} (mem : c ∈ h.written) :
    isPlain c = true ∨ (h.bracketed = true ∧ (c = OPEN_BRACKET ∨ c = CLOSE_BRACKET)) := by
  cases h with
  | name text plain whole => exact .inl (plain c mem)
  | literal text plain valid =>
      rcases List.mem_append.mp mem with front | last
      · rcases List.mem_cons.mp front with rfl | inside
        · exact .inr ⟨rfl, .inl rfl⟩
        · exact .inl (plain c inside)
      · exact .inr ⟨rfl, .inr (List.mem_singleton.mp last)⟩

theorem UrlHost.brackets_mem {h : UrlHost L} (literal : h.bracketed = true) :
    OPEN_BRACKET ∈ h.written ∧ CLOSE_BRACKET ∈ h.written := by
  cases h with
  | name text plain whole => cases literal
  | literal text plain valid =>
      exact ⟨List.mem_append_left _ List.mem_cons_self,
        List.mem_append_right _ (List.mem_singleton_self _)⟩

theorem Authority.mem_text {a : Authority L} {c : CodePoint} (mem : c ∈ a.text) :
    isPlain c = true ∨ (a.host.bracketed = true ∧ (c = OPEN_BRACKET ∨ c = CLOSE_BRACKET)) := by
  rcases List.mem_append.mp mem with host | port
  · exact UrlHost.mem_written host
  · exact .inl (a.port_plain port)

theorem Authority.atSign_not_mem (a : Authority L) : AT_SIGN ∉ a.text := by
  intro mem
  rcases Authority.mem_text mem with plain | ⟨_, other | other⟩
  · exact absurd plain (by decide)
  · exact absurd other (by decide)
  · exact absurd other (by decide)

namespace Url

variable (u : Url L)

theorem mem_userinfoText {c : CodePoint} (mem : c ∈ userinfoText u.userinfo) :
    isPlain c = true ∨ c = AT_SIGN := by
  have plain := u.userinfoPlain
  cases info : u.userinfo with
  | none =>
      rw [info] at mem
      cases mem
  | some s =>
      rw [info] at mem plain
      rcases List.mem_append.mp mem with inside | last
      · exact .inl (plain s rfl c inside)
      · exact .inr (List.mem_singleton.mp last)

/-- There is a bracket in the netloc if the host is a literal. -/
theorem bracket_mem_netloc_iff {c : CodePoint} (bracket : c = OPEN_BRACKET ∨ c = CLOSE_BRACKET) :
    c ∈ u.netloc ↔ u.authority.host.bracketed = true := by
  have notPlain : isPlain c = false := by rcases bracket with rfl | rfl <;> decide
  constructor
  · intro mem
    rcases List.mem_append.mp mem with info | authority
    · rcases u.mem_userinfoText info with plain | rfl
      · rw [plain] at notPlain
        cases notPlain
      · exact absurd bracket (by decide)
    · rcases Authority.mem_text authority with plain | ⟨literal, _⟩
      · rw [plain] at notPlain
        cases notPlain
      · exact literal
  · intro literal
    have mem := UrlHost.brackets_mem literal
    refine List.mem_append_right _ (List.mem_append_left _ ?_)
    rcases bracket with rfl | rfl
    · exact mem.1
    · exact mem.2

theorem netloc_char {c : CodePoint} (mem : c ∈ u.netloc) : isNetlocChar c = true := by
  rcases List.mem_append.mp mem with info | authority
  · rcases u.mem_userinfoText info with plain | rfl
    · exact isNetlocChar_of_plain plain
    · decide
  · rcases Authority.mem_text authority with plain | ⟨_, rfl | rfl⟩
    · exact isNetlocChar_of_plain plain
    · decide
    · decide

/-- A scheme is written with letters. -/
theorem letter_of_mem_spelled {c : CodePoint} (mem : c ∈ u.spelled) : isLetter c = true := by
  have letters : (u.scheme.name.all isLetter) = true := by cases u.scheme <;> decide
  rcases mem_of_mem_lowerAscii mem with upper | same
  · simp [isLetter, upper.1, upper.2]
  · rw [u.spells] at same
    exact List.all_eq_true.mp letters c same

theorem spelled_ne_nil : u.spelled ≠ [] := by
  intro empty
  have name := u.spells
  rw [empty] at name
  exact absurd name.symm (by cases u.scheme <;> decide)

/-! ## What `urlsplit` finds -/

theorem afterLast_netloc : afterLast AT_SIGN u.netloc = u.authority.text := by
  have none := u.authority.atSign_not_mem
  rw [netloc]
  cases u.userinfo with
  | none => exact afterLast_eq_self none
  | some info =>
      rw [userinfoText, List.append_assoc, List.singleton_append]
      exact afterLast_append none

theorem hostinfo_of_name {text : Str} {port : Option Str} (whole : COLON ∉ text)
    (plain : OPEN_BRACKET ∉ text ++ portText port) {netloc : Str}
    (info : afterLast AT_SIGN netloc = text ++ portText port) :
    hostinfo netloc = (text, port.getD []) := by
  rw [hostinfo, info, if_neg plain]
  cases port with
  | none =>
      rw [portText, List.append_nil, before_eq_self whole, after_eq_nil whole]
      rfl
  | some digits =>
      rw [portText, before_append whole, after_append whole]
      rfl

theorem readPort_eq_ok {port : Str} (valid : IsPort port) :
    readPort port = .ok (portNumber port) := by
  simp only [readPort, bind_eq_ok, ensure_eq_ok, pure_eq_ok, decide_eq_true_eq, List.all_eq_true]
  exact ⟨(), valid.digits, (), valid.short, (), valid.inRange, trivial⟩

theorem after_colon_portText (port : Option Str) : after COLON (portText port) = port.getD [] := by
  cases port with
  | none => rfl
  | some digits => exact after_append (a := []) List.not_mem_nil

theorem hostinfo_of_literal {text : Str} {port : Option Str} (plain : CLOSE_BRACKET ∉ text)
    {netloc : Str} (info : afterLast AT_SIGN netloc =
      OPEN_BRACKET :: text ++ [CLOSE_BRACKET] ++ portText port) :
    hostinfo netloc = (text, port.getD []) := by
  have inner : after OPEN_BRACKET (OPEN_BRACKET :: text ++ [CLOSE_BRACKET] ++ portText port) =
      text ++ CLOSE_BRACKET :: portText port := by
    rw [List.append_assoc, List.singleton_append, List.cons_append]
    exact after_append (a := []) List.not_mem_nil
  rw [hostinfo, info, if_pos (List.mem_append_left _ (List.mem_append_left _ List.mem_cons_self)),
    inner, before_append plain, after_append plain, after_colon_portText]

/-- The host is read without brackets. -/
theorem hostinfo_netloc :
    hostinfo u.netloc = (u.authority.host.text, u.authority.port.getD []) := by
  have info := u.afterLast_netloc
  rw [Authority.text] at info
  cases host : u.authority.host with
  | name text plain whole =>
      rw [host] at info
      refine hostinfo_of_name whole ?_ info
      have literal := u.bracket_mem_netloc_iff (.inl rfl)
      intro mem
      have inside : OPEN_BRACKET ∈ u.netloc := by
        refine List.mem_append_right _ ?_
        rw [Authority.text, host]
        exact mem
      rw [host] at literal
      cases literal.mp inside
  | literal text plain valid =>
      rw [host] at info
      exact hostinfo_of_literal (not_mem_of_plain plain (by decide)) info

theorem splitPort_netloc : splitPort u.netloc = .ok u.authority.explicitPort := by
  rw [splitPort, u.hostinfo_netloc, Authority.explicitPort]
  have read := fun s here => readPort_eq_ok (u.authority.valid s here)
  cases port : u.authority.port with
  | none => rfl
  | some s =>
      cases s with
      | nil => rfl
      | cons c s =>
          show (if c :: s = [] then _ else some <$> readPort (c :: s)) = _
          rw [if_neg (List.cons_ne_nil c s), read _ port]
          rfl

end Url

/-! ## Case -/

theorem lowerAscii_append (s t : Str) : lowerAscii (s ++ t) = lowerAscii s ++ lowerAscii t :=
  List.map_append

theorem not_upper_of_mem_lowerAscii {s : Str} {c : CodePoint} (mem : c ∈ lowerAscii s) :
    ¬ (65 ≤ c.val ∧ c.val ≤ 90) := by
  obtain ⟨d, _, rfl⟩ := List.mem_map.mp mem
  split
  · rename_i upper
    show ¬ (65 ≤ d.val + 32 ∧ d.val + 32 ≤ 90)
    omega
  · assumption

theorem lowerAscii_lowerAscii (s : Str) : lowerAscii (lowerAscii s) = lowerAscii s := by
  refine (List.map_congr_left fun c mem => ?_).trans (List.map_id _)
  exact dif_neg (not_upper_of_mem_lowerAscii mem)

theorem lowerAscii_ascii {s : Str} (ascii : (s.all fun c => c.val < 128) = true) :
    ((lowerAscii s).all fun c => c.val < 128) = true := by
  simp only [List.all_eq_true, decide_eq_true_eq] at ascii ⊢
  intro c mem
  obtain ⟨d, inside, rfl⟩ := List.mem_map.mp mem
  have small := ascii d inside
  split
  · show d.val + 32 < 128
    omega
  · exact small

/-- A lowered host is the host in lower case, its zone with it. -/
theorem lower_splitHostname {netloc : Str} (lowers : Http.LowersAscii L.lower)
    (ascii : ((hostinfo netloc).1.all fun c => c.val < 128) = true) :
    L.lower ((splitHostname L.lower netloc).getD []) = lowerAscii (hostinfo netloc).1 := by
  unfold splitHostname
  split
  · rename_i empty
    rw [empty]
    exact lowers [] rfl
  · generalize (hostinfo netloc).1 = host at ascii
    have parts : before PERCENT host ++ host.dropWhile (fun c => c ≠ PERCENT) = host :=
      List.takeWhile_append_dropWhile
    have both := ascii
    rw [← parts, List.all_append, Bool.and_eq_true] at both
    rw [Option.getD_some, lowers _ both.1, lowers, lowerAscii_append, lowerAscii_lowerAscii,
      ← lowerAscii_append, parts]
    rw [List.all_append, lowerAscii_ascii both.1, both.2, Bool.and_true]

/-! ## A URL taken apart -/

/-- The characters that end a netloc are not removed. -/
theorem isUnsafe_of_endsNetloc {c : CodePoint} (ends : endsNetloc c = true) :
    isUnsafe c = false := by
  have safe : (Str.ofString "/?#").all (!isUnsafe ·) = true := by decide
  have here := List.all_eq_true.mp safe c (List.contains_iff_mem.mp ends)
  simpa using here

theorem isUnsafe_of_gt {c : CodePoint} (visible : 32 < c.val) : isUnsafe c = false := by
  simp only [isUnsafe, Bool.or_eq_false_iff, beq_eq_false_iff_ne]
  omega

theorem visible_of_letter {c : CodePoint} (letter : isLetter c = true) : 32 < c.val := by
  simp only [isLetter, Bool.or_eq_true, Bool.and_eq_true, decide_eq_true_eq] at letter
  omega

theorem visible_of_netlocChar {c : CodePoint} (char : isNetlocChar c = true) :
    32 < c.val ∧ c.val < 128 := by
  simp only [isNetlocChar, Bool.and_eq_true, decide_eq_true_eq] at char
  omega

namespace Url

variable (u : Url L)

/-- What is left of the tail starts with what it started with. -/
theorem filtered_tail : ∀ c ∈ (u.tail.filter (!isUnsafe ·)).head?, endsNetloc c = true := by
  have starts := u.tailStarts
  cases tail : u.tail with
  | nil => exact nofun
  | cons c rest =>
      rw [tail] at starts
      have ends := starts c rfl
      rw [List.filter_cons_of_pos (by rw [isUnsafe_of_endsNetloc ends]; rfl)]
      exact starts

/-- Nothing is removed from a URL before its tail. -/
theorem clean_text : (u.text.dropWhile fun c => c.val ≤ 32).filter (!isUnsafe ·) =
    u.spelled ++ COLON :: SLASH :: SLASH :: (u.netloc ++ u.tail.filter (!isUnsafe ·)) := by
  have kept : ∀ c ∈ u.spelled, (!isUnsafe c) = true := by
    intro c mem
    rw [isUnsafe_of_gt (visible_of_letter (u.letter_of_mem_spelled mem))]
    rfl
  have keptNetloc : ∀ c ∈ u.netloc, (!isUnsafe c) = true := by
    intro c mem
    rw [isUnsafe_of_gt (visible_of_netlocChar (u.netloc_char mem)).1]
    rfl
  have start : u.text.dropWhile (fun c => c.val ≤ 32) = u.text := by
    rw [text]
    cases spelled : u.spelled with
    | nil => exact absurd spelled u.spelled_ne_nil
    | cons c rest =>
        have letter := u.letter_of_mem_spelled (spelled ▸ List.mem_cons_self (a := c) (l := rest))
        refine List.dropWhile_cons_of_neg ?_
        simpa using visible_of_letter letter
  rw [start, text, List.filter_append, List.filter_eq_self.mpr kept,
    List.filter_cons_of_pos (by decide), List.filter_cons_of_pos (by decide),
    List.filter_cons_of_pos (by decide), List.filter_append, List.filter_eq_self.mpr keptNetloc]

theorem colon_not_mem_spelled : COLON ∉ u.spelled := by
  intro mem
  exact absurd (u.letter_of_mem_spelled mem) (by decide)

theorem spelled_ascii : (u.spelled.all fun c => c.val < 128) = true := by
  rw [List.all_eq_true]
  intro c mem
  have letter := u.letter_of_mem_spelled mem
  simp only [isLetter, Bool.or_eq_true, Bool.and_eq_true, decide_eq_true_eq] at letter ⊢
  omega

theorem splitScheme_text (lowers : Http.LowersAscii L.lower) (rest : Str) :
    splitScheme L.lower (u.spelled ++ COLON :: rest) = (u.scheme.name, rest) := by
  have whole : before COLON (u.spelled ++ COLON :: rest) = u.spelled :=
    before_append u.colon_not_mem_spelled
  have first : u.spelled.head?.any isLetter = true := by
    cases spelled : u.spelled with
    | nil => exact absurd spelled u.spelled_ne_nil
    | cons c cs => exact u.letter_of_mem_spelled (spelled ▸ List.mem_cons_self)
  have chars : u.spelled.all isSchemeChar = true := by
    rw [List.all_eq_true]
    intro c mem
    rw [isSchemeChar, u.letter_of_mem_spelled mem]
    rfl
  rw [splitScheme, whole, if_pos ⟨List.mem_append_right _ List.mem_cons_self, first, chars⟩,
    after_append u.colon_not_mem_spelled, lowers _ u.spelled_ascii, u.spells]

theorem splitNetloc_text {tail : Str} (starts : ∀ c ∈ tail.head?, endsNetloc c = true) :
    splitNetloc (SLASH :: SLASH :: (u.netloc ++ tail)) = u.netloc := by
  have two : (SLASH :: SLASH :: (u.netloc ++ tail)).take 2 = [SLASH, SLASH] := rfl
  rw [splitNetloc, if_pos two]
  refine takeWhile_of_stop (fun c mem => ?_) fun c mem => ?_
  · have char := u.netloc_char mem
    rw [isNetlocChar, Bool.and_eq_true] at char
    exact char.2
  · rw [starts c mem]
    rfl

/-- A literal in a URL is checked as it stands between the brackets. -/
theorem checkBracketedHost_netloc (mem : OPEN_BRACKET ∈ u.netloc) :
    L.checkBracketedHost (before CLOSE_BRACKET (after OPEN_BRACKET u.netloc)) = .ok () := by
  have literal := (u.bracket_mem_netloc_iff (.inl rfl)).mp mem
  have info : OPEN_BRACKET ∉ userinfoText u.userinfo := by
    intro inside
    rcases u.mem_userinfoText inside with plain | other
    · exact absurd plain (by decide)
    · exact absurd other (by decide)
  rw [netloc, Authority.text]
  cases host : u.authority.host with
  | name text plain whole =>
      rw [host] at literal
      cases literal
  | literal text plain valid =>
      have split : userinfoText u.userinfo ++
          (OPEN_BRACKET :: text ++ [CLOSE_BRACKET] ++ portText u.authority.port) =
          userinfoText u.userinfo ++
            OPEN_BRACKET :: (text ++ CLOSE_BRACKET :: portText u.authority.port) := by
        rw [List.append_assoc, List.singleton_append, List.cons_append]
      rw [UrlHost.written, split, after_append info,
        before_append (not_mem_of_plain plain (by decide))]
      exact valid

theorem checkNetloc_netloc : checkNetloc L u.netloc = .ok () := by
  have brackets : OPEN_BRACKET ∈ u.netloc ↔ CLOSE_BRACKET ∈ u.netloc :=
    (u.bracket_mem_netloc_iff (.inl rfl)).trans (u.bracket_mem_netloc_iff (.inr rfl)).symm
  have ascii : (u.netloc.any fun c => 128 ≤ c.val) = false := by
    rw [List.any_eq_false]
    intro c mem
    have char := visible_of_netlocChar (u.netloc_char mem)
    simp only [decide_eq_true_eq]
    omega
  rw [checkNetloc, decide_eq_true brackets, ascii]
  by_cases mem : OPEN_BRACKET ∈ u.netloc
  · rw [if_pos mem, u.checkBracketedHost_netloc mem]
    rfl
  · rw [if_neg mem]
    rfl

/-- The parts of a URL are found. -/
theorem urlsplit_text (lowers : Http.LowersAscii L.lower) : urlsplit L u.text =
    .ok ⟨u.scheme.name, splitHostname L.lower u.netloc, .ok u.authority.explicitPort⟩ := by
  rw [urlsplit, u.clean_text]
  simp only [u.splitScheme_text lowers, u.splitNetloc_text u.filtered_tail, u.splitPort_netloc,
    u.checkNetloc_netloc]
  rfl

theorem host_ascii : (u.authority.host.text.all fun c => c.val < 128) = true := by
  rw [List.all_eq_true]
  intro c mem
  have char := visible_of_netlocChar (isNetlocChar_of_plain (u.authority.host.plain c mem))
  exact decide_eq_true char.2

end Url

/-! ## Host keys -/

/-- The machine's `urllib` and `str.lower` are the library's. -/
structure Machine.ReadsUrls (m : Machine P) (L : UrlLibrary) : Prop where
  urlsplit_eq : m.urlsplit = Client.urlsplit L
  lower_eq : m.site.codecs.lower = L.lower
  lowers : Http.LowersAscii L.lower

/-- `host:port`. -/
def hostKey (host : Str) (port : ℕ) : Str := host ++ (":" : Str) ++ Str.ofInt port

namespace Url

variable {P : Platform} {m : Machine P} (u : Url L)

def port : ℕ := u.authority.explicitPort.getD u.scheme.defaultPort

/-- A URL as `normalize_host_key` parses it. -/
def prefixed (url : Str) : Str :=
  if [(("http://" : String) : Str), "https://", "ws://", "wss://"].any (·.isPrefixOf url) then url
  else "https://" ++ url

theorem defaultPort_eq (s : UrlScheme) : s.defaultPort =
    if s.name = "https" ∨ s.name = "wss" then 443 else 80 := by
  cases s <;> decide

/-- The key of a text is made of the host and the port of the URL that is parsed. -/
theorem normalizeHostKey_of_prefixed (reads : m.ReadsUrls L) {url : Str}
    (parsed : prefixed url = u.text) : normalizeHostKey m url =
      .ok (hostKey (lowerAscii u.authority.host.text) u.port) := by
  have found : m.urlsplit (prefixed url) =
      .ok ⟨u.scheme.name, splitHostname L.lower u.netloc, .ok u.authority.explicitPort⟩ := by
    rw [reads.urlsplit_eq, parsed, u.urlsplit_text reads.lowers]
  have ascii : ((hostinfo u.netloc).1.all fun c => c.val < 128) = true := by
    rw [u.hostinfo_netloc]
    exact u.host_ascii
  have lowered := lower_splitHostname reads.lowers ascii
  rw [u.hostinfo_netloc] at lowered
  show (do
    let parsed ← m.urlsplit (prefixed url)
    let port := (← parsed.port).getD
      (if parsed.scheme = "https" ∨ parsed.scheme = "wss" then 443 else 80)
    return m.site.codecs.lower (parsed.hostname.getD []) ++ (":" : Str) ++ Str.ofInt port) = _
  rw [found]
  show Except.ok (m.site.codecs.lower ((splitHostname L.lower u.netloc).getD []) ++ (":" : Str) ++
    Str.ofInt (u.authority.explicitPort.getD
      (if u.scheme.name = "https" ∨ u.scheme.name = "wss" then 443 else 80) : ℕ)) = _
  rw [reads.lower_eq, lowered, ← defaultPort_eq]
  rfl

/-! A scheme in lower case is found, and any other is taken for a host. -/

theorem lowerAscii_name (s : UrlScheme) : lowerAscii s.name = s.name := by
  cases s <;> decide

theorem name_injective : Function.Injective UrlScheme.name := by
  intro s t same
  cases s <;> cases t <;> first | rfl | exact absurd same (by decide)

theorem starts_iff (s : UrlScheme) :
    (s.name ++ COLON :: SLASH :: [SLASH]).isPrefixOf u.text = true ↔ u.spelled = s.name := by
  have whole : COLON ∉ s.name := by cases s <;> decide
  rw [List.isPrefixOf_iff_prefix]
  constructor
  · rintro ⟨rest, same⟩
    rw [text, List.append_assoc, List.cons_append] at same
    exact (append_sep_inj whole u.colon_not_mem_spelled same).1.symm
  · intro spelled
    refine ⟨u.netloc ++ u.tail, ?_⟩
    rw [text, spelled, List.append_assoc]
    rfl

theorem lowerCase_iff : u.LowerCase ↔ ∃ s : UrlScheme, u.spelled = s.name := by
  constructor
  · exact fun lower => ⟨_, lower⟩
  · rintro ⟨s, spelled⟩
    have name := u.spells
    rw [spelled, lowerAscii_name] at name
    rw [LowerCase, spelled, name]

theorem prefixed_eq_ite :
    prefixed u.text = if u.LowerCase then u.text else "https://" ++ u.text := by
  have known : [(("http://" : String) : Str), "https://", "ws://", "wss://"] =
      [UrlScheme.http, .https, .ws, .wss].map (·.name ++ COLON :: SLASH :: [SLASH]) := by decide
  have any : (([UrlScheme.http, .https, .ws, .wss].map (·.name ++ COLON :: SLASH :: [SLASH])).any
      (·.isPrefixOf u.text)) = true ↔ u.LowerCase := by
    rw [List.any_map, List.any_eq_true, u.lowerCase_iff]
    constructor
    · rintro ⟨s, _, starts⟩
      exact ⟨s, (u.starts_iff s).mp starts⟩
    · rintro ⟨s, spelled⟩
      exact ⟨s, by cases s <;> decide, (u.starts_iff s).mpr spelled⟩
  rw [prefixed, known]
  by_cases lower : u.LowerCase
  · rw [if_pos (any.mpr lower), if_pos lower]
  · rw [if_neg fun starts => lower (any.mp starts), if_neg lower]

theorem https_spells : lowerAscii (Str.ofString "https") = UrlScheme.https.name := by decide

theorem plain_of_none : ∀ s ∈ (none : Option Str), ∀ c ∈ s, isPlain c = true := nofun

theorem spelled_plain : ∀ c ∈ u.spelled, isPlain c = true := by
  intro c mem
  have letter := u.letter_of_mem_spelled mem
  have outside : (Str.ofString "/?#@[]").all (!isLetter ·) = true := by decide
  have range := letter
  simp only [isLetter, Bool.or_eq_true, Bool.and_eq_true, decide_eq_true_eq] at range
  simp only [isPlain, Bool.and_eq_true, Bool.not_eq_true', List.contains_eq_mem,
    decide_eq_false_iff_not, decide_eq_true_eq]
  refine ⟨⟨by omega, by omega⟩, fun delimiter => ?_⟩
  have none := List.all_eq_true.mp outside c delimiter
  rw [letter] at none
  cases none

theorem isPort_of_empty : ∀ s ∈ some ([] : Str), IsPort s := by
  intro s here
  obtain rfl := Option.some.inj here
  exact ⟨nofun, Nat.zero_le _, Nat.zero_le _⟩

theorem slash_starts (rest : Str) : ∀ c ∈ (SLASH :: rest).head?, endsNetloc c = true := by
  rintro c ⟨⟩
  decide

/-- What `https://` in front of a URL makes of it: its scheme is the host. -/
def reparsed : Url L where
  scheme := .https
  spelled := "https"
  spells := https_spells
  userinfo := none
  userinfoPlain := plain_of_none
  authority := ⟨.name u.spelled u.spelled_plain u.colon_not_mem_spelled, some [], isPort_of_empty⟩
  tail := SLASH :: SLASH :: (u.netloc ++ u.tail)
  tailStarts := slash_starts _

theorem reparsed_text : u.reparsed.text = "https://" ++ u.text := by
  have https : Str.ofString "https://" = Str.ofString "https" ++ [COLON, SLASH, SLASH] := by decide
  show Str.ofString "https" ++ COLON :: SLASH :: SLASH :: ((u.spelled ++ [COLON]) ++
    SLASH :: SLASH :: (u.netloc ++ u.tail)) = Str.ofString "https://" ++ u.text
  rw [https, text, List.append_assoc, List.append_assoc]
  rfl

/-- A URL whose scheme is in lower case has the key of its host and port. -/
theorem normalizeHostKey_of_lower (reads : m.ReadsUrls L) (lower : u.LowerCase) :
    normalizeHostKey m u.text = .ok (hostKey (lowerAscii u.authority.host.text) u.port) := by
  refine u.normalizeHostKey_of_prefixed reads ?_
  rw [u.prefixed_eq_ite, if_pos lower]

/-- Any other has the key of its scheme. -/
theorem normalizeHostKey_of_upper (reads : m.ReadsUrls L) (upper : ¬ u.LowerCase) :
    normalizeHostKey m u.text = .ok (hostKey u.scheme.name 443) := by
  have parsed : prefixed u.text = u.reparsed.text := by
    rw [u.prefixed_eq_ite, if_neg upper, u.reparsed_text]
  rw [u.reparsed.normalizeHostKey_of_prefixed reads parsed]
  show Except.ok (hostKey (lowerAscii u.spelled) 443) = _
  rw [u.spells]

/-! ## Two URLs -/

/-- The two hosts are written alike, one with brackets and one without. -/
def Twins (u v : Url L) : Prop :=
  lowerAscii u.authority.host.text = lowerAscii v.authority.host.text ∧ u.port = v.port ∧
    u.authority.host.bracketed ≠ v.authority.host.bracketed

/-- A URL is of the host that is named as a scheme, at port 443. -/
def AtScheme (u : Url L) (s : UrlScheme) : Prop :=
  lowerAscii u.authority.host.text = s.name ∧ u.port = 443

/-- The URLs whose keys tell whether they have one host and port. -/
def KeysTell (u v : Url L) : Prop :=
  match decide u.LowerCase, decide v.LowerCase with
  | true, true => ¬ u.Twins v
  | true, false => u.AtScheme v.scheme ↔ u.origin = v.origin
  | false, true => v.AtScheme u.scheme ↔ u.origin = v.origin
  | false, false => u.scheme = v.scheme ↔ u.origin = v.origin

end Url

/-- Keys are equal if their hosts and ports are. -/
theorem hostKey_inj {h h' : Str} {p p' : ℕ} : hostKey h p = hostKey h' p' ↔ h = h' ∧ p = p' := by
  have last : ∀ (h : Str) (p : ℕ), afterLast COLON (hostKey h p) = Str.ofInt p := by
    intro h p
    rw [hostKey, List.append_assoc]
    exact afterLast_append (colon_notMem_ofInt p)
  constructor
  · intro same
    have port : p = p' := by
      have printed := congrArg (afterLast COLON) same
      rw [last, last, Str.ofInt_inj] at printed
      exact Int.natCast_inj.mp printed
    subst port
    rw [hostKey, hostKey, List.append_assoc, List.append_assoc, List.append_cancel_right_eq] at same
    exact ⟨same, rfl⟩
  · rintro ⟨rfl, rfl⟩
    rfl

variable {P : Platform} {m : Machine P}

theorem Url.origin_eq_iff {u v : Url L} : u.origin = v.origin ↔
    u.authority.host.bracketed = v.authority.host.bracketed ∧
      lowerAscii u.authority.host.text = lowerAscii v.authority.host.text ∧ u.port = v.port :=
  Origin.ext_iff

/-- The key of a URL, by how its scheme is written. -/
theorem Url.normalizeHostKey_eq (u : Url L) (reads : m.ReadsUrls L) : normalizeHostKey m u.text =
    .ok (if u.LowerCase then hostKey (lowerAscii u.authority.host.text) u.port
      else hostKey u.scheme.name 443) := by
  split
  · exact u.normalizeHostKey_of_lower reads ‹_›
  · exact u.normalizeHostKey_of_upper reads ‹_›

theorem Url.keysTell_of_lower {u v : Url L} (lower : u.LowerCase) (lower' : v.LowerCase) :
    u.KeysTell v ↔ ¬ u.Twins v := by
  rw [KeysTell, decide_eq_true lower, decide_eq_true lower']

/-- Two URLs have one key if and only if they have one host and port, exactly where their keys
tell. -/
theorem hostKeys_tell_iff (reads : m.ReadsUrls L) (u v : Url L) :
    (normalizeHostKey m u.text = normalizeHostKey m v.text ↔ u.origin = v.origin) ↔
      u.KeysTell v := by
  rw [u.normalizeHostKey_eq reads, v.normalizeHostKey_eq reads, Except.ok.injEq]
  by_cases lower : u.LowerCase <;> by_cases lower' : v.LowerCase
  · rw [if_pos lower, if_pos lower', hostKey_inj, Url.keysTell_of_lower lower lower',
      Url.origin_eq_iff, Url.Twins]
    tauto
  · rw [if_pos lower, if_neg lower', hostKey_inj, Url.KeysTell, decide_eq_true lower,
      decide_eq_false lower']
    exact Iff.rfl
  · rw [if_neg lower, if_pos lower', hostKey_inj, Url.KeysTell, decide_eq_false lower,
      decide_eq_true lower']
    show _ ↔ (v.AtScheme u.scheme ↔ _)
    rw [Url.AtScheme, eq_comm, eq_comm (a := v.port)]
  · rw [if_neg lower, if_neg lower', hostKey_inj, Url.KeysTell, decide_eq_false lower,
      decide_eq_false lower']
    show _ ↔ (u.scheme = v.scheme ↔ _)
    rw [Url.name_injective.eq_iff, and_iff_left rfl]

/-! Two spellings of one host, and two hosts whose schemes are written in capitals. -/

/-- A library that lets only the loopback address stand between brackets. -/
def sampleLibrary : UrlLibrary where
  checkBracketedHost := fun host =>
    if host = "::1" then .ok () else .error ⟨.valueError, [.repr (.str host),
      " does not appear to be an IPv4 or IPv6 address"]⟩
  checkNormalized := fun _ => .ok ()
  lower := lowerAscii

def urlMachine : Machine .textual where
  site := sampleSite
  files := fun _ => none
  urlsplit := urlsplit sampleLibrary
  urlencode := fun _ => .ok []

theorem urlMachine_reads : urlMachine.ReadsUrls sampleLibrary where
  urlsplit_eq := rfl
  lower_eq := rfl
  lowers := fun _ _ => rfl

theorem isPort_of_none : ∀ s ∈ (none : Option Str), IsPort s := nofun

/-- The characters of a host name. -/
def isHostName (host : Str) : Bool := host.all fun c => isPlain c && c != COLON

theorem plain_of_isHostName {host : Str} (valid : isHostName host = true) :
    ∀ c ∈ host, isPlain c = true := by
  intro c mem
  have here := List.all_eq_true.mp valid c mem
  exact (Bool.and_eq_true_iff.mp here).1

theorem whole_of_isHostName {host : Str} (valid : isHostName host = true) : COLON ∉ host := by
  intro mem
  have here := List.all_eq_true.mp valid COLON mem
  exact absurd here (by decide)

/-- An `http` URL of a host at the default port. -/
def sampleUrl (spelled host : Str) (spells : lowerAscii spelled = UrlScheme.http.name)
    (valid : isHostName host = true) : Url sampleLibrary where
  scheme := .http
  spelled := spelled
  spells := spells
  userinfo := none
  userinfoPlain := Url.plain_of_none
  authority := ⟨.name host (plain_of_isHostName valid) (whole_of_isHostName valid), none,
    isPort_of_none⟩
  tail := SLASH :: []
  tailStarts := Url.slash_starts []

theorem http_spells : lowerAscii (Str.ofString "http") = UrlScheme.http.name := by decide

theorem capital_spells : lowerAscii (Str.ofString "HTTP") = UrlScheme.http.name := by decide

theorem first_isHostName : isHostName "a.example" = true := by decide

theorem capital_isHostName : isHostName "A.Example" = true := by decide

theorem second_isHostName : isHostName "b.example" = true := by decide

def firstUrl : Url sampleLibrary := sampleUrl "http" "a.example" http_spells first_isHostName

def firstUrlRespelled : Url sampleLibrary :=
  sampleUrl "http" "A.Example" http_spells capital_isHostName

def firstUrlCapital : Url sampleLibrary :=
  sampleUrl "HTTP" "a.example" capital_spells first_isHostName

def secondUrlCapital : Url sampleLibrary :=
  sampleUrl "HTTP" "b.example" capital_spells second_isHostName

theorem firstUrl_tells : firstUrl.KeysTell firstUrlRespelled :=
  (Url.keysTell_of_lower (by decide) (by decide)).mpr fun twins => twins.2.2 (by decide)

theorem hostKeys_tell_sample : normalizeHostKey urlMachine "http://a.example/" =
    normalizeHostKey urlMachine "http://A.Example/" := by
  have written : Str.ofString "http://a.example/" = firstUrl.text := by decide
  have written' : Str.ofString "http://A.Example/" = firstUrlRespelled.text := by decide
  have one : firstUrl.origin = firstUrlRespelled.origin :=
    Url.origin_eq_iff.mpr (by decide)
  rw [written, written']
  exact ((hostKeys_tell_iff urlMachine_reads _ _).mpr firstUrl_tells).mpr one

/-- Two hosts are taken for one if the schemes of their URLs are written in capitals. -/
theorem capital_schemes_share_key : ¬ ∀ (P : Platform) (m : Machine P) (L : UrlLibrary)
    (u v : Url L), m.ReadsUrls L →
      (normalizeHostKey m u.text = normalizeHostKey m v.text ↔ u.origin = v.origin) := by
  intro always
  have same : normalizeHostKey urlMachine firstUrlCapital.text =
      normalizeHostKey urlMachine secondUrlCapital.text := by
    rw [Url.normalizeHostKey_of_upper _ urlMachine_reads (by decide),
      Url.normalizeHostKey_of_upper _ urlMachine_reads (by decide)]
    rfl
  have one := (always _ urlMachine _ _ _ urlMachine_reads).mp same
  have apart : lowerAscii (Str.ofString "a.example") ≠ lowerAscii (Str.ofString "b.example") := by
    decide
  exact apart (Url.origin_eq_iff.mp one).2.1

end Uxsp.Client
