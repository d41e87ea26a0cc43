import HarnessTraining.Library.Regex
import Mathlib.Data.Char
import Mathlib.Data.List.DropRight
import Mathlib.Data.List.Lex
import Mathlib.Data.List.Sort

/-!
# Residual observation scrubbing

`src/determinism.py`: the rules that replace the volatile tokens of one text, the line-level passes
that follow them, and the drift-audit identity, which forgets the order of the lines.  The rules
stand in the order and under the headings of the source.

`\d`, `\s` and `\w` are classes of Unicode characters.  Their tables are a parameter (`Unicode`), of
which only the ASCII part is known.
-/

set_option autoImplicit false

namespace HarnessTraining

open Regex

/-- The character tables of the regular expressions and of `str`. -/
structure Unicode where
  isDecimal : Char → Bool
  isSpace : Char → Bool
  isWord : Char → Bool
  /-- Whether two characters are the same under `re.IGNORECASE`. -/
  sameIgnoringCase : Char → Char → Bool
  isDecimal_ascii : ∀ c, c.toNat < 128 → isDecimal c = c.isDigit
  isSpace_ascii : ∀ c, c.toNat < 128 → isSpace c =
    decide (c ∈ [' ', '\t', '\n', '\x0b', '\x0c', '\r', '\x1c', '\x1d', '\x1e', '\x1f'])
  isWord_ascii : ∀ c, c.toNat < 128 → isWord c = (c.isAlphanum || c == '_')
  sameIgnoringCase_ascii : ∀ c d, c.toNat < 128 → d.toNat < 128 →
    sameIgnoringCase c d = (c.toLower == d.toLower)

/-- The tables cut down to ASCII, for small concrete cases. -/
def Unicode.ascii : Unicode where
  isDecimal c := c.isDigit
  isSpace c := c ∈ [' ', '\t', '\n', '\x0b', '\x0c', '\r', '\x1c', '\x1d', '\x1e', '\x1f']
  isWord c := c.isAlphanum || c == '_'
  sameIgnoringCase c d := c.toLower == d.toLower
  isDecimal_ascii _ _ := rfl
  isSpace_ascii _ _ := rfl
  isWord_ascii _ _ := rfl
  sameIgnoringCase_ascii _ _ _ _ := rfl

abbrev Line := List Char

/-- One substitution: a pattern and its replacement. -/
structure Rule where
  pattern : Regex
  template : Template

def Rule.apply (rule : Rule) (text : List Char) : List Char := rule.pattern.sub rule.template text

/-- Substitutions, one after the other. -/
def applyRules (rules : List Rule) (text : List Char) : List Char :=
  rules.foldl (fun text rule ↦ rule.apply text) text

/-! ## Character classes -/

/-- A set of characters between brackets. -/
def anyOf (chars : String) : Regex := .char fun c ↦ c ∈ chars.toList

def isLowerAscii (c : Char) : Bool := 'a' ≤ c ∧ c ≤ 'z'

def isUpperAscii (c : Char) : Bool := 'A' ≤ c ∧ c ≤ 'Z'

def isDigitAscii (c : Char) : Bool := '0' ≤ c ∧ c ≤ '9'

/-- `[0-9A-Fa-f]`. -/
def isHex (c : Char) : Bool :=
  isDigitAscii c || decide ('A' ≤ c ∧ c ≤ 'F') || decide ('a' ≤ c ∧ c ≤ 'f')

def hex : Regex := .char isHex

/-- `[0-9a-f]`. -/
def lowerHex : Regex := .char fun c ↦ isDigitAscii c || decide ('a' ≤ c ∧ c ≤ 'f')

/-- `[a-z0-9_]`. -/
def tempChar : Regex := .char fun c ↦ isLowerAscii c || isDigitAscii c || c == '_'

/-- `[A-Za-z0-9]`, with some more characters. -/
def alnumOr (chars : String) : Regex := .char fun c ↦
  isUpperAscii c || isLowerAscii c || isDigitAscii c || decide (c ∈ chars.toList)

/-- The text right before a position. -/
def precededByText (text : String) : Regex :=
  .behind true (text.toList.reverse.map fun c d ↦ decide (d = c))

namespace Unicode

variable (u : Unicode)

/-- `\d`, `\s`, `\S` and `\w`. -/
def digit : Regex := .char u.isDecimal

def space : Regex := .char u.isSpace

def nonSpace : Regex := .char fun c ↦ !u.isSpace c

def wordChar : Regex := .char u.isWord

/-- `\b`. -/
def wordBoundary : Regex := .boundary u.isWord

/-- Between `min` and `max` digits. -/
def digits (min max : ℕ) : Regex := .rep min (some max) u.digit

/-- A text, literally, under `re.IGNORECASE`. -/
def litIgnoringCase (text : String) : Regex :=
  cat (text.toList.map fun c ↦ .char fun d ↦ u.sameIgnoringCase d c)

/-! ## Residual observation scrubbing -/

/-- `_ADDRESS_IDENTITY_SUBS`. -/
def addressIdentitySubs : List Rule := [
  ⟨cat [lit "at 0x", plus hex], [.lit "at <ADDR>"]⟩,
  ⟨cat [u.wordBoundary, .group 1 (cat [lit "id", plus (anyOf " =:")]), .rep 12 none u.digit,
    u.wordBoundary], [.ref 1, .lit "<ADDR>"]⟩,
  ⟨cat [u.wordBoundary, .rep 15 none (cat [times 2 hex, lit ":"]), times 2 hex, u.wordBoundary],
    [.lit "<FINGERPRINT>"]⟩]

/-- Torchelastic repeats volatile child timestamps and PIDs across its failure report. -/
def torchelasticReportSubs : List Rule := [
  ⟨cat [.lineStart, .group 1 (cat [star u.space, lit "time", plus u.space, lit ": "]),
    times 4 u.digit, lit "-", times 2 u.digit, lit "-", times 2 u.digit, lit "_", times 2 u.digit,
    lit ":", times 2 u.digit, lit ":", times 2 u.digit, u.wordBoundary],
    [.ref 1, .lit "<DATE>_<TIME>"]⟩,
  ⟨cat [.lineStart, .group 1 (cat [star u.space, lit "exitcode", plus u.space, lit ": ",
    plus u.digit, lit " (pid: "]), plus u.digit, .group 2 (lit ")")],
    [.ref 1, .lit "<PID>", .ref 2]⟩,
  ⟨cat [.group 1 (cat [lit "(exitcode: ", plus u.digit, lit ") local_rank: ", plus u.digit,
    lit " (pid: "]), plus u.digit, .group 2 (lit ") of binary:")],
    [.ref 1, .lit "<PID>", .ref 2]⟩,
  ⟨cat [u.wordBoundary, .group 1 (lit "Sending process "), plus u.digit,
    .group 2 (lit " closing signal ")], [.ref 1, .lit "<PID>", .ref 2]⟩]

/-- A unit of time, optional letters and all. -/
def timeUnit : Regex :=
  oneOf ([("ns", ""), ("µs", ""), ("us", ""), ("ms", ""), ("second", "s"), ("sec", "s"), ("s", ""),
    ("minute", "s"), ("min", "s"), ("m", ""), ("hour", "s"), ("hr", "s"), ("h", "")].map
    fun (stem, plural) ↦ if plural = "" then u.litIgnoringCase stem
      else cat [u.litIgnoringCase stem, opt (u.litIgnoringCase plural)])

/-- A timing word and a duration, with pytest's optional parenthetical. -/
def duration : Regex := cat [
  u.wordBoundary,
  .group 1 (oneOf (["in", "took", "after", "elapsed"].map u.litIgnoringCase)),
  plus u.space,
  opt (cat [plus u.digit, star u.space, u.litIgnoringCase "m", star u.space]),
  plus u.digit, opt (cat [lit ".", plus u.digit]),
  star u.space,
  u.timeUnit,
  u.wordBoundary,
  opt (cat [star u.space, lit "(", u.digits 1 2, lit ":", times 2 u.digit, lit ":",
    times 2 u.digit, lit ")"])]

/-- `_WALL_CLOCK_SUBS`. -/
def wallClockSubs : List Rule := [
  ⟨u.duration, [.ref 1, .lit " <DUR>"]⟩,
  ⟨cat [u.wordBoundary, .group 1 (lit "Building:"), lit " ", plus u.digit,
    opt (cat [lit ".", plus u.digit]), lit "s", u.wordBoundary], [.ref 1, .lit " <DUR>"]⟩,
  -- neither after nor before a hex pair
  ⟨cat [.behind false [fun c ↦ decide (c = ':'), isHex, isHex], u.wordBoundary, u.digits 1 2,
    lit ":", times 2 u.digit, lit ":", times 2 u.digit, u.wordBoundary,
    .ahead false (cat [lit ":", times 2 hex])], [.lit "<TIME>"]⟩,
  -- a date is a log stamp if the clock rule left `<TIME>` next to it
  ⟨cat [u.wordBoundary, times 4 u.digit, lit "-", times 2 u.digit, lit "-", times 2 u.digit,
    .ahead true (lit " <TIME>")], [.lit "<DATE>"]⟩]

/-- Four numbers with dots. -/
def ipv4 : Regex := cat [u.digits 1 3, times 3 (cat [lit ".", u.digits 1 3])]

/-- `_NETWORK_DRIFT_SUBS`. -/
def networkDriftSubs : List Rule := [
  ⟨cat [lit " (Request ID: ", .rep 1 (some 200) (.char fun c ↦ c != ')'), lit ")"], []⟩,
  ⟨cat [u.wordBoundary, .group 1 (oneOf [lit "connect to", lit "from"]), lit " ", u.ipv4,
    lit " port ", u.digits 1 5, u.wordBoundary], [.ref 1, .lit " <ENDPOINT>"]⟩,
  ⟨cat [lit "[IP: ", u.ipv4, lit " ", u.digits 1 5, lit "]"], [.lit "[IP: <ENDPOINT>]"]⟩,
  ⟨cat [.lineStart, .group 1 (cat [lit "Backend:", star u.space]), plus (alnumOr ""),
    lit "--F_", plus (alnumOr "-"), lit "_debian_backend_mirrors_debian_org",
    .group 2 (opt (lit "\r")), .lineEnd], [.ref 1, .lit "<DEBIAN_BACKEND>", .ref 2]⟩,
  ⟨cat [lit "(", u.digit, star (.char fun c ↦ u.isDecimal c || c == '.'), opt (lit " "),
    opt (anyOf "kKMG"), lit "B/s)"], [.lit "(<RATE>)"]⟩]

/-- `_FILESYSTEM_METADATA_SUBS`. -/
def filesystemMetadataSubs : List Rule := [
  ⟨cat [.lineStart, .group 1 (cat [anyOf "-dlbcps", times 9 (anyOf "rwxstST-"), opt (anyOf ".+@"),
    plus u.space, plus u.digit, plus u.space, plus u.nonSpace, plus u.space, plus u.nonSpace,
    plus u.space, plus u.nonSpace, plus u.space]),
    oneOf (["Jan", "Feb", "Mar", "Apr", "May", "Jun", "Jul", "Aug", "Sep", "Oct", "Nov",
      "Dec"].map lit),
    plus u.space, u.digits 1 2, plus u.space,
    oneOf [cat [u.digits 1 2, lit ":", times 2 u.digit], times 4 u.digit]],
    [.ref 1, .lit "<MTIME>"]⟩,
  ⟨cat [.lineStart, .group 1 (cat [lit "dr-xr-xr-x", plus u.space]), plus u.digit,
    .group 2 (cat [plus u.space, lit "root", plus u.space, lit "root", plus u.space,
      plus u.nonSpace, plus u.space, lit "<MTIME>", plus u.space, lit "proc"]), .lineEnd],
    [.ref 1, .lit "<NLINK>", .ref 2]⟩]

/-- `tmp`, eight random characters, and perhaps a hyphen between. -/
def tempName : Regex := cat [lit "tmp", opt (lit "-"), times 8 tempChar]

/-- `_TOOL_RANDOMNESS_SUBS`. -/
def toolRandomnessSubs : List Rule := [
  ⟨cat [u.wordBoundary, lit "build-env-", times 8 tempChar, u.wordBoundary],
    [.lit "build-env-<RAND>"]⟩,
  ⟨cat [precededByText "/tmp/", lit "cc", times 6 (alnumOr ""),
    .ahead true (cat [lit ".", .rep 1 (some 4) (.char isLowerAscii), u.wordBoundary])],
    [.lit "cc<RAND>"]⟩,
  ⟨cat [precededByText "/tmp/", lit "sphinx-err-", times 8 tempChar,
    .ahead true (cat [lit ".log", u.wordBoundary])], [.lit "sphinx-err-<RAND>"]⟩,
  ⟨oneOf [cat [oneOf [precededByText "/", precededByText "."], tempName,
      .ahead true (anyOf "/._-")],
    cat [u.wordBoundary, tempName, .ahead false tempChar]], [.lit "tmp<RAND>"]⟩,
  ⟨cat [u.wordBoundary, lit "pip-", .group 1 (oneOf (["ephem-wheel-cache", "install", "req-build",
    "build-env", "unpack", "target"].map lit)), lit "-", times 8 tempChar, u.wordBoundary],
    [.lit "pip-", .ref 1, .lit "-<RAND>"]⟩,
  ⟨cat [u.wordBoundary, lit "size=", plus u.digit, lit " sha256=", times 64 lowerHex,
    u.wordBoundary], [.lit "size=<SIZE> sha256=<HASH>"]⟩]

/-- `_PROCESS_IDENTITY_SUBS`. -/
def processIdentitySubs : List Rule := [
  ⟨cat [lit "==", plus u.digit, lit "=="], [.lit "==<PID>=="]⟩,
  ⟨cat [.group 1 (cat [lit "00000000", plus u.space, lit "0", plus u.space, lit "0 "]),
    plus u.digit, lit " ", .group 2 (plus u.digit), lit " ", times 16 lowerHex, u.wordBoundary],
    [.ref 1, .lit "<INODE> ", .ref 2, .lit " <SK>"]⟩,
  ⟨cat [u.wordBoundary, .group 1 (lit "PID: "), plus u.digit, u.wordBoundary],
    [.ref 1, .lit "<PID>"]⟩,
  ⟨cat [u.wordBoundary, .group 1 (lit "master pid: "), plus u.digit], [.ref 1, .lit "<PID>"]⟩,
  ⟨cat [u.wordBoundary, lit "pid=", plus u.digit], [.lit "pid=<PID>"]⟩,
  ⟨cat [u.wordBoundary, lit "fd=", plus u.digit], [.lit "fd=<FD>"]⟩,
  ⟨cat [.behind true [u.isSpace], plus u.digit, lit "/",
    .group 1 (cat [.char fun c ↦ isUpperAscii c || isLowerAscii c,
      star (.char fun c ↦ u.isWord c || c == '.' || c == '+' || c == '-')]),
    star u.space, .lineEnd], [.lit "<PID>/", .ref 1]⟩]

/-- Pytest banner padding changes with the width of the duration in it. -/
def presentationSubs : List Rule := [⟨.rep 8 none (lit "="), [.lit "========"]⟩]

/-- Sympy's test runner prints a random seed. -/
def runnerRandomnessSubs : List Rule := [
  ⟨cat [.group 1 (cat [lit "random seed:", plus u.space]), plus u.digit], [.ref 1, .lit "<SEED>"]⟩]

/-- `_RESIDUAL_OBSERVATION_SUBS`; the order is significant. -/
def residualObservationSubs : List Rule :=
  u.addressIdentitySubs ++ u.torchelasticReportSubs ++ u.wallClockSubs ++ u.networkDriftSubs ++
    u.filesystemMetadataSubs ++ u.toolRandomnessSubs ++ u.processIdentitySubs ++
    presentationSubs ++ u.runnerRandomnessSubs

/-! ## Bare PIDs -/

/-- `_PID_PRODUCING_COMMAND`. -/
def pidProducingCommand : Regex :=
  oneOf [lit "$!", cat [u.wordBoundary, lit "pidof", u.wordBoundary]]

/-- `_BARE_PID_LINE`, as group 0. -/
def barePidLine : Regex := .group 0
  (cat [.lineStart, plus u.digit, star (cat [lit " ", plus u.digit]), .lineEnd])

/-- Every number of a line of numbers is a PID. -/
def scrubBarePids (text : List Char) : List Char :=
  u.barePidLine.subWith (fun q ↦ (plus u.digit).sub [.lit "<PID>"] (q.groupText 0)) text

def producesPids (command : Option (List Char)) : Bool :=
  command.any fun command ↦ u.pidProducingCommand.search command

/-! ## Line-level passes -/

/-- `_DRIFT_AUDIT_HEADER_LINE`. -/
def driftAuditHeaderLine : Regex := cat [.textStart,
  .group 1 (cat [.char fun c ↦ isUpperAscii c || isLowerAscii c, star (alnumOr "-")]), lit ":",
  star (anyOf " \t"), .group 2 (star (.char fun c ↦ c != '\n')), .lineEnd]

def bashJobStatusLine : Rule :=
  ⟨cat [.group 1 (cat [lit "bash: line ", plus u.digit, lit ":"]), plus u.space, plus u.digit,
    plus u.space], [.ref 1, .lit " <PID> "]⟩

def bashPipelineJobStatusLine : Rule :=
  ⟨cat [.textStart, .group 1 (plus u.space), plus u.digit, lit " ",
    .group 2 (oneOf ([cat [lit "Done", opt (cat [lit "(", plus u.digit, lit ")"])],
      cat [lit "Exit ", plus u.digit]] ++ ["Killed", "Terminated", "Aborted", "Segmentation fault",
      "Broken pipe", "Bus error", "Hangup", "Interrupt", "Floating point exception",
      "Illegal instruction", "Stopped", "Running"].map lit)), u.wordBoundary],
    [.ref 1, .lit "<PID> ", .ref 2]⟩

def glogPrefix : Rule :=
  ⟨cat [u.wordBoundary, anyOf "IWEF", times 4 u.digit, plus u.space, lit "<TIME>.", plus u.digit,
    plus u.space, plus u.digit,
    .group 1 (cat [plus u.space, plus u.nonSpace, lit ":", plus u.digit, lit "]"])],
    [.lit "<LOG> <TIME>.<SUBSEC> <PID>", .ref 1]⟩

def terminatingProcess : Rule :=
  ⟨cat [u.wordBoundary, .group 1 (lit "Terminating process"), lit " ", plus u.digit, lit " ",
    .ahead true (cat [lit "via signal", u.wordBoundary])], [.ref 1, .lit " <PID> "]⟩

def lineRules : List Rule :=
  [u.bashJobStatusLine, u.bashPipelineJobStatusLine, u.glogPrefix, u.terminatingProcess]

/-- `_DROPPED_LINE_PATTERNS`: pip's keepalives, and torchelastic's log of who survived. -/
def droppedLinePatterns : List Regex := [
  cat [star u.space,
    oneOf [cat [lit "Building ", oneOf [lit "wheel", lit "editable"], lit " for ", plus u.nonSpace],
      lit "Installing build dependencies", lit "Getting requirements to build wheel",
      cat [lit "Preparing ", opt (lit "editable "), lit "metadata"]],
    lit " (", oneOf [lit "pyproject.toml", lit "setup.py"], lit "): still running...",
    star u.space],
  cat [lit "<LOG> <TIME>.<SUBSEC> <PID> torch/distributed/elastic/multiprocessing/api.py:",
    plus u.digit, lit "] Sending process <PID> closing signal ", plus u.wordChar, star u.space]]

/-- `str.rstrip`. -/
def rstrip (line : Line) : Line := line.rdropWhile u.isSpace

/-- The name and the value of a header line. -/
def header? (line : Line) : Option (Line × Line) :=
  (driftAuditHeaderLine.fullmatch (u.rstrip line)).map fun q ↦ (q.groupText 1, q.groupText 2)

/-- A header line in canonical form, if its name has a hyphen or a neighbour is a header too; a lone
prose label is kept. -/
def canonicalizeHeader (hasHeaderNeighbour : Bool) (line : Line) : Line :=
  match u.header? line with
  | some (name, value) =>
    if '-' ∈ name ∨ hasHeaderNeighbour then name.map Char.toLower ++ ": ".toList ++ value else line
  | none => line

/-- Whether the line at an index is a header. -/
def isHeaderAt (lines : List Line) (index : ℕ) : Bool :=
  (lines[index]?.bind u.header?).isSome

def hasHeaderNeighbour (lines : List Line) (index : ℕ) : Bool :=
  (decide (0 < index) && u.isHeaderAt lines (index - 1)) || u.isHeaderAt lines (index + 1)

/-- `_canonicalize_structural_headers`. -/
def canonicalizeStructuralHeaders (lines : List Line) : List Line :=
  lines.mapIdx fun index line ↦ u.canonicalizeHeader (u.hasHeaderNeighbour lines index) line

def isDropped (line : Line) : Bool :=
  u.droppedLinePatterns.any fun pattern ↦ (pattern.fullmatch line).isSome

/-- The line-level passes after the headers. -/
def normalizeLines (lines : List Line) : List Line :=
  (lines.map (applyRules u.lineRules)).filter fun line ↦ !u.isDropped line

end Unicode

/-- `text.replace("\r\n", "\n").replace("\r", "\n")`. -/
def normalizeNewlines : List Char → List Char
  | [] => []
  | '\r' :: '\n' :: rest => '\n' :: normalizeNewlines rest
  | '\r' :: rest => '\n' :: normalizeNewlines rest
  | c :: rest => c :: normalizeNewlines rest

namespace Unicode

variable (u : Unicode)

/-- The substitutions over a whole text. -/
def scrubResidual (command : Option (List Char)) (text : List Char) : List Char :=
  applyRules u.residualObservationSubs
    (if u.producesPids command then u.scrubBarePids text else text)

/-- `scrub_nondeterminism`. -/
def scrubNondeterminism (text : List Char) (command : Option (List Char)) : List Char :=
  let lines := (normalizeNewlines (u.scrubResidual command text)).splitOn '\n'
  joinLines (u.normalizeLines (u.canonicalizeStructuralHeaders lines))

/-- `drift_audit_canonical`: scrubbed lines without trailing white space, sorted. -/
def driftAuditCanonical (text : List Char) (command : Option (List Char)) : List Char :=
  joinLines
    ((((u.scrubNondeterminism text command).splitOn '\n').map u.rstrip).insertionSort (· ≤ ·))

end Unicode

example : String.ofList (Unicode.ascii.driftAuditCanonical
    "b took 3.2s\nX-Id:  5 \na at 0x7f12".toList none) =
    "a at <ADDR>\nb took <DUR>\nx-id: 5" := by decide +kernel

end HarnessTraining
