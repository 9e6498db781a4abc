import AirspaceRaster.CommandLine.PointArgument

/-! The arguments of the command line. Options have a short and a long name. Short ones without a value
    may be joined, and a value follows directly, after an equals sign, or as the next argument. A word
    that starts with a minus is an option unless it is a number, and after two minuses nothing is one
    any more. -/

namespace AirspaceRaster

/-- What is asked for on the command line. -/
structure Options where
  input : String
  /-- The latitude and longitude of the only tile to write. -/
  lat : Option Float := none
  lon : Option Float := none
  resolution : Nat := 300
  force : Bool := false
  /-- The point to show instead of writing tiles. -/
  check : Option (Point Float) := none
  outputDir : String := "."
  jobs : Option Nat := none
  /-- How often more output is asked for. -/
  verbose : Nat := 0
  quiet : Bool := false

namespace Options

/-- The least important events that are shown. -/
def limit (o : Options) : Severity :=
  if o.quiet then .warn
  else match o.verbose with
    | 0 => .info
    | 1 => .debug
    | _ => .trace

def grid (o : Options) : GridConfig :=
  let g : GridConfig := { resolution := o.resolution, force := o.force }
  match o.jobs with
  | some jobs => g.withWorkers jobs
  | none => g

end Options

namespace Arguments

/-- Why there are no options in the end. -/
inductive Stop where
  | usage
  | help
  | version
  deriving DecidableEq, Repr

/-- The options by their kind. -/
inductive Flag where
  | resolution
  | force
  | check
  | outputDir
  | jobs
  | verbose
  | quiet
  | help
  | version
  deriving DecidableEq, Repr

namespace Flag

def takesValue : Flag → Bool
  | resolution => true
  | check => true
  | outputDir => true
  | jobs => true
  | _ => false

/-- The option of a letter. -/
def ofShort? : Char → Option Flag
  | 'r' => some resolution
  | 'f' => some force
  | 'c' => some check
  | 'o' => some outputDir
  | 'j' => some jobs
  | 'v' => some verbose
  | 'q' => some quiet
  | 'h' => some help
  | 'V' => some version
  | _ => none

/-- The option of a long name. -/
def ofLong? : String → Option Flag
  | "resolution" => some resolution
  | "force" => some force
  | "check" => some check
  | "output-dir" => some outputDir
  | "jobs" => some jobs
  | "verbose" => some verbose
  | "quiet" => some quiet
  | "help" => some help
  | "version" => some version
  | _ => none

end Flag

/-- What the arguments read so far say. -/
structure State where
  input : Option String := none
  lat : Option Float := none
  lon : Option Float := none
  resolution : Option Nat := none
  force : Bool := false
  check : Option (Point Float) := none
  outputDir : Option String := none
  jobs : Option Nat := none
  verbose : Nat := 0
  quiet : Bool := false
  /-- The option whose value is the next argument. -/
  pending : Option Flag := none
  /-- Whether the two minuses have been read. -/
  ended : Bool := false

/-- A whole number that fits into 64 bits; a plus in front of it does not count. -/
def natural? (s : String) : Option Nat :=
  let cs := match s.toList with
    | '+' :: rest => rest
    | cs => cs
  if cs.isEmpty || !cs.all Char.isDigit then none
  else if Decimal.ofDigits cs < UInt64.size then some (Decimal.ofDigits cs)
  else none

/-- A path; the empty text is none. -/
def path? (s : String) : Option String :=
  if s.isEmpty then none else some s

/-- A value that is set only once. -/
def setOnce {α : Type} (old new : Option α) : Except Stop (Option α) :=
  match old, new with
  | none, some a => .ok (some a)
  | _, _ => .error .usage

namespace State

def setValue (st : State) (f : Flag) (value : String) : Except Stop State :=
  match f with
  | .resolution => return { st with resolution := ← setOnce st.resolution (natural? value) }
  | .jobs => return { st with jobs := ← setOnce st.jobs (natural? value) }
  | .outputDir => return { st with outputDir := ← setOnce st.outputDir (path? value) }
  | .check => return { st with check := ← setOnce st.check (PointArgument.parse value).toOption }
  | _ => .error .usage

def setFlag (st : State) (f : Flag) : Except Stop State :=
  match f with
  | .force => if st.force then .error .usage else .ok { st with force := true }
  | .quiet => if st.quiet then .error .usage else .ok { st with quiet := true }
  | .verbose => .ok { st with verbose := st.verbose + 1 }
  | .help => .error .help
  | .version => .error .version
  | _ => .error .usage

/-- An argument that is no option: the document, then the latitude, then the longitude. -/
def addPositional (st : State) (arg : String) : Except Stop State :=
  match st.input, st.lat, st.lon with
  | none, _, _ => return { st with input := ← setOnce none (path? arg) }
  | _, none, _ => return { st with lat := ← setOnce none (Decimal.read? arg) }
  | _, _, none => return { st with lon := ← setOnce none (Decimal.read? arg) }
  | _, _, _ => .error .usage

/-- The letters behind one minus. The rest behind a letter that takes a value is its value. -/
def addShorts (st : State) : List Char → Except Stop State
  | [] => .ok st
  | c :: rest =>
    match Flag.ofShort? c with
    | none => .error .usage
    | some f =>
      if f.takesValue then
        match rest with
        | [] => .ok { st with pending := some f }
        | '=' :: value => st.setValue f (String.ofList value)
        | value => st.setValue f (String.ofList value)
      else do (← st.setFlag f).addShorts rest

/-- The name and perhaps the value behind two minuses. -/
def addLong (st : State) (cs : List Char) : Except Stop State :=
  let name := String.ofList (cs.takeWhile (· != '='))
  match Flag.ofLong? name, cs.dropWhile (· != '=') with
  | none, _ => .error .usage
  | some f, [] =>
    if f.takesValue then .ok { st with pending := some f } else st.setFlag f
  | some f, _ :: value =>
    if f.takesValue then st.setValue f (String.ofList value) else .error .usage

def addWord (st : State) (arg : String) : Except Stop State :=
  match st.pending with
  | some f => { st with pending := none }.setValue f arg
  | none => st.addPositional arg

end State

/-- Whether the text behind a minus makes it a number: digits, perhaps a point among them that is not
    the first, and perhaps an `e` or `E` that is neither the first nor the last. -/
def isNumeric (cs : List Char) : Bool :=
  let whole := cs.takeWhile fun c => c.isDigit || c == '.'
  let rest := cs.dropWhile fun c => c.isDigit || c == '.'
  whole.head? != some '.' && whole.count '.' ≤ 1 &&
    match rest with
    | [] => true
    | e :: power =>
      (e == 'e' || e == 'E') && !whole.isEmpty && !power.isEmpty && power.all Char.isDigit

def State.add (st : State) (arg : String) : Except Stop State :=
  if st.ended then st.addPositional arg
  else match arg.toList with
    | ['-'] => st.addWord arg
    | ['-', '-'] => if st.pending.isSome then .error .usage else .ok { st with ended := true }
    | '-' :: '-' :: cs => if st.pending.isSome then .error .usage else st.addLong cs
    | '-' :: cs =>
      if isNumeric cs then st.addWord arg
      else if st.pending.isSome then .error .usage
      else st.addShorts cs
    | _ => st.addWord arg

/-- The options, if the arguments go together: there is a document, no latitude stands alone, and more
    and less output are not asked for at once. -/
def State.options (st : State) : Except Stop Options :=
  match st.input with
  | none => .error .usage
  | some input =>
    if st.pending.isSome || (st.lat.isSome && st.lon.isNone) || (st.quiet && 0 < st.verbose) then
      .error .usage
    else .ok {
      input := input
      lat := st.lat
      lon := st.lon
      resolution := st.resolution.getD 300
      force := st.force
      check := st.check
      outputDir := st.outputDir.getD "."
      jobs := st.jobs
      verbose := st.verbose
      quiet := st.quiet }

def parse (args : List String) : Except Stop Options := do
  (← args.foldlM State.add {}).options

end Arguments

end AirspaceRaster
