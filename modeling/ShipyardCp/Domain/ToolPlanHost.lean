import ShipyardCp.Domain.RuntimeTools
import ShipyardCp.Types.Job

/-! The process that executes the tool plans of workers, and the calls of these plans. -/

namespace ShipyardCp.Domain

open Types Lib Lib.NodePath JsText

structure ToolPlanCall where
  tool : String
  args : List (String × Json)

inductive OperationStatus where
  | applied | planned | skipped | failed
  deriving DecidableEq

structure ToolPlanOperationResult where
  tool : String
  status : OperationStatus
  path : Option String := none
  message : Option String := none

/-- The process that executes plans: its platform, its working directory (and that of each drive),
the lower case of names, and which locations exist. -/
structure ToolPlanHost where
  platform : Platform
  cwd : Location
  driveCwd : List Char → List (List Char)
  lowerCase : List Char → List Char
  lowerCase_lower : ∀ name, name.all Char.isLower = true → lowerCase name = name
  existsSync : Location → Bool

namespace ToolPlanHost

variable (host : ToolPlanHost)

def relative (source target : Location) : List Char :=
  NodePath.relative host.platform host.lowerCase source target

def resolve (base : Location) (path : List Char) : Location :=
  NodePath.resolve host.platform host.driveCwd base path

def arg (call : ToolPlanCall) (key : String) : Option Json := (Json.obj call.args).get? key

/-- The location in the workspace that a call names. -/
def resolveRepoPath (workspaceRoot : Location) (pathText : Option Json) : Except String Location :=
  match pathText.bind Json.asString? with
  | none => .error "path must be a non-empty string"
  | some text =>
    let path := text.toList
    if path = [] then .error "path must be a non-empty string"
    else if isAbsolute host.platform path || ['.', '.'] ∈ parts .win32 path then
      .error s!"path must be repo-relative and stay within workspace: {text}"
    else
      let resolved := host.resolve workspaceRoot path
      let relative := host.relative workspaceRoot resolved
      if ['.', '.'].isPrefixOf relative || isAbsolute host.platform relative then
        .error s!"path escapes workspace: {text}"
      else .ok resolved

end ToolPlanHost

/-! The commands that tool plans run: the test command of a workspace, the commands on the allowlist
and their working directories, and what is told of a command that has run. -/

def DEFAULT_COMMAND_TIMEOUT_MS : Nat := 120000

def DEFAULT_COMMAND_MAX_OUTPUT_CHARS : Nat := 32000

/-- A process that is started, with its limits. -/
structure ProcessStart where
  bin : String
  args : List String
  cwd : Location
  timeout : Nat
  maxBuffer : Nat
  deriving DecidableEq

/-- What a process that ended well wrote, and how long it took. -/
structure ProcessOutput where
  stdout : String
  stderr : String
  elapsedMs : Nat

/-- The error of a process that failed, or that was not started. -/
structure ProcessError where
  message : String
  stdout : Option String := none
  stderr : Option String := none

structure SafeCommandSpec where
  bin : String
  args : List String
  rendered : String
  cwd : Location
  timeoutMs : Nat
  maxOutputChars : Nat

/-- The integer of a value that is one, or of a text of digits. -/
def integer? : Json → Option Int
  | .num mantissa exponent =>
    if 0 ≤ exponent then some (mantissa * 10 ^ exponent.toNat)
    else if mantissa % 10 ^ (-exponent).toNat = 0 then some (mantissa / 10 ^ (-exponent).toNat)
    else none
  | .str text =>
    if text.toList ≠ [] ∧ text.toList.all Char.isDigit then some (Json.digitsValue text.toList)
    else none
  | _ => none

def parseBoundedInteger (value : Option Json) (fallback min max : Nat) : Nat :=
  let parsed := (value.bind integer?).getD fallback
  (Min.min (max : Int) (Max.max (min : Int) parsed)).toNat

def isMetacharacter (c : Char) : Bool := c ∈ [';', '&', '|', '<', '>', '`', '$']

def isQuote (c : Char) : Bool := c = '"' || c = '\''

def hasDoubleBlank : List Char → Bool
  | a :: b :: text =>
    ((a = ' ' || a = '\t') && (b = ' ' || b = '\t')) || hasDoubleBlank (b :: text)
  | _ => false

/-- What follows white space, `&&` and white space up to the end, if that is all on one line; of the
second white space as much is left out as can be. -/
def afterAnd (text : List Char) : Option (List Char) :=
  if text.head?.any JsText.isSpace then
    match text.dropWhile JsText.isSpace with
    | '&' :: '&' :: rest =>
      let spaces := (rest.takeWhile JsText.isSpace).length
      ((List.range spaces).reverse.map fun k => rest.drop (k + 1)).find? fun command =>
        command ≠ [] && !command.any JsText.isLineTerminator
    | _ => none
  else none

/-- The groups of `/^cd\s+(.+?)\s+&&\s+(.+)$/`: the shortest first one after as much white space as
can be, and what follows it. -/
def cdMatch : List Char → Option (List Char × List Char)
  | 'c' :: 'd' :: rest =>
    let spaces := (rest.takeWhile JsText.isSpace).length
    (List.range spaces).reverse.findSome? fun k =>
      let body := rest.drop (k + 1)
      (List.range body.length).findSome? fun m =>
        let directory := body.take (m + 1)
        if directory.any JsText.isLineTerminator then none
        else (afterAnd (body.drop (m + 1))).map fun command => (directory, command)
  | _ => none

/-- The commands that plans may run, each with any further arguments. -/
def allowedPrefixes : List (List String) := [["uv", "run", "python", "tools/round_robin.py"],
   ["uv", "run", "python", "tools/run_match.py"],
   ["uv", "run", "pytest"],
   ["uv", "run", "ruff", "check"],
   ["uv", "run", "python", "-m", "compileall"],
   ["git", "diff", "--check"],
   ["git", "diff", "--stat"],
   ["git", "status", "--short"],
   ["npm", "--version"],
   ["node", "--version"]]

namespace ToolPlanHost

variable (host : ToolPlanHost)

def resolveTestCommand (existsSync : Location → Bool) (workspaceRoot : Location) :
    Option (String × List String) :=
  let file := fun (name : String) =>
    { workspaceRoot with names := workspaceRoot.names ++ [name.toList] : Location }
  if existsSync (file "pyproject.toml") then some ("uv", ["run", "pytest"])
  else if existsSync (file "package.json") then
    some (if host.platform = .win32 then "npm.cmd" else "npm", ["test"])
  else none

def resolveCommandCwd (existsSync : Location → Bool) (workspaceRoot : Location)
    (cwdArg : Option Json) : Except String Location :=
  match cwdArg with
  | none | some .null | some (.str "") => .ok workspaceRoot
  | some (.str text) =>
    let path := text.toList
    if path.any isQuote || path.any isMetacharacter then
      .error s!"cwd contains unsupported shell syntax: {text}"
    else if ['.', '.'] ∈ parts .win32 path then .error s!"cwd must stay within workspace: {text}"
    else
      let resolved :=
        host.resolve (if isAbsolute host.platform path then host.cwd else workspaceRoot) path
      let relative := host.relative workspaceRoot resolved
      if ['.', '.'].isPrefixOf relative || isAbsolute host.platform relative then
        .error s!"cwd escapes workspace: {text}"
      else if !existsSync resolved then .error s!"cwd does not exist: {text}"
      else .ok resolved
  | some _ => .error "cwd must be a string when provided"

def extractCommandAndCwd (existsSync : Location → Bool) (commandText : List Char)
    (cwdArg : Option Json) (workspaceRoot : Location) :
    Except String (List Char × Location) := do
  let cwd ← host.resolveCommandCwd existsSync workspaceRoot cwdArg
  match cdMatch commandText with
  | none => pure (commandText, cwd)
  | some (directory, command) =>
    let cwd ← host.resolveCommandCwd existsSync workspaceRoot (some (.str (String.ofList directory)))
    pure (trim command, cwd)

def normalizeCommandBin (bin : String) : String :=
  if host.platform ≠ .win32 then bin
  else if bin = "npm" then "npm.cmd"
  else if bin = "npx" then "npx.cmd"
  else bin

def resolveSafeCommand (existsSync : Location → Bool) (commandText : List Char)
    (call : ToolPlanCall) (workspaceRoot : Location) : Except String SafeCommandSpec :=
  let rendered := String.ofList commandText
  if commandText = [] then .error "command must be a non-empty string"
  else do
    let (command, cwd) ← host.extractCommandAndCwd existsSync commandText (arg call "cwd")
      workspaceRoot
    if command.any isMetacharacter then
      .error s!"command contains unsupported shell metacharacters: {rendered}"
    else if hasDoubleBlank command then
      .error s!"command must use single spaces between arguments: {rendered}"
    else
      let tokens := command.splitOn ' '
      if tokens.any fun token => token = [] || token.any isQuote then
        .error s!"command must be unquoted simple tokens: {rendered}"
      else
        let words := tokens.map String.ofList
        let timeoutMs := parseBoundedInteger (arg call "timeout_ms") DEFAULT_COMMAND_TIMEOUT_MS
          1000 600000
        let maxOutputChars := parseBoundedInteger (arg call "max_output_chars")
          DEFAULT_COMMAND_MAX_OUTPUT_CHARS 1000 200000
        if allowedPrefixes.any fun start => start.isPrefixOf words then
          .ok { bin := host.normalizeCommandBin (words.headD ""), args := words.tail, rendered,
                cwd, timeoutMs, maxOutputChars }
        else .error s!"command is not in the safe allowlist: {rendered}"

end ToolPlanHost

def joinedLines (texts : List (List Char)) : List Char := ['\n'].intercalate (texts.filter (· ≠ []))

def sliceUnits (n : Nat) : List Char → List Char
  | [] => []
  | c :: text =>
    if (codeUnits c).length ≤ n then c :: sliceUnits (n - (codeUnits c).length) text
    else []

def truncateCommandOutput (output : List Char) (maxChars : Nat) : List Char :=
  let length := (charCodes output).length
  if length ≤ maxChars then output
  else sliceUnits maxChars output ++ s!"\n... truncated {length - maxChars} chars".toList

def failureMarks : List String :=
  ["fail", "error", "expected", "received", "assert", "trace", "not ok", "✖", "×", "ERR!"]

/-- The lines of a failure that tell why, or its first lines. -/
def summarizeTestFailure (error : ProcessError) : String :=
  let output := joinedLines
    [(error.stdout.getD "").toList, (error.stderr.getD "").toList, error.message.toList]
  let lines := ((output.splitOn '\n').map fun line => line.rdropWhile isSpace).filter (· ≠ [])
  let interesting := lines.filter fun line =>
    failureMarks.any fun mark => test (word mark) none line
  let chosen := if interesting ≠ [] then interesting else lines
  let summary := sliceUnits 2000 (['\n'].intercalate (chosen.take 12))
  if summary = [] then error.message else String.ofList summary

end ShipyardCp.Domain
