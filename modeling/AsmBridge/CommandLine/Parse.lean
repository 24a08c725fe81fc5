import AsmBridge.CommandLine.Word

/-!
# Reading a command line

The words are taken from left to right. An option that prints a text and ends the program does so as
soon as it is met; all other words are checked before anything is done.
-/

namespace AsmBridge

/-- What has been read of a command line. -/
structure Progress where
  source : Option Path := none
  output : Given Path := .absent
  stub : Given Path := .absent
  counts : List (Option (Text × Int)) := []
  tableName : Text := defaultTableName
  encode : Bool := false
  verbose : Bool := false
  /-- Words that have no meaning. -/
  extras : List Text := []

/-- Why reading ends early. -/
inductive Stop
  | help
  | version
  | error (e : UsageError)
  deriving Repr, DecidableEq

namespace Progress

/-- Takes an option without value. -/
def setFlag (p : Progress) : Switch → Except Stop Progress
  | .help => .error .help
  | .version => .error .version
  | .encode => .ok { p with encode := true }
  | .verbose => .ok { p with verbose := true }
  | .output | .stub | .args | .tableName => .ok p

/-- An argument count whose value may be lost. -/
def argumentCount? : Option Text → Except UsageError (Option (Text × Int))
  | none => .ok none
  | some value => (argumentCount value).map some

/-- Takes an option with its value, which may be lost. -/
def setValue (p : Progress) (option : Switch) (value : Option Text) : Except Stop Progress :=
  match option with
  | .output => .ok { p with output := .ofValue (value.map Path.parse) }
  | .stub => .ok { p with stub := .ofValue (value.map Path.parse) }
  | .tableName => .ok { p with tableName := value.getD lostText }
  | .args =>
    match argumentCount? value with
    | .ok count => .ok { p with counts := p.counts ++ [count] }
    | .error e => .error (.error e)
  | .help | .encode | .verbose | .version => .ok p

/-- Takes a word that has no meaning. -/
def addExtra (p : Progress) (word : Text) : Progress :=
  { p with extras := p.extras ++ [word] }

/-- Takes a plain word, which is the source if there is none. -/
def addPlain (p : Progress) (word : Text) : Progress :=
  match p.source with
  | none => { p with source := some (.parse word) }
  | some _ => p.addExtra word

end Progress

/-- A word of joined short options: options without value, and at most one with a value after them. -/
structure Cluster where
  flags : List Switch := []
  /-- An option with a value, which is in this word or in the next one. -/
  last : Option (Switch × Option Text) := none
  deriving Repr, DecidableEq

namespace Cluster

/-- The cluster with an option without value in front. -/
def push (s : Switch) (c : Cluster) : Cluster :=
  { c with flags := s :: c.flags }

/-- The value that is joined to an option, if there is more to the word. -/
def valueOf : Text → Option Text
  | [] => none
  | c :: r => some (c :: r)

/-- The options joined to the short option `s`, which takes no value. All that follows an option with
a value is its value, an equals sign too. -/
def ofJoined (s : Switch) : Text → Except UsageError Cluster
  | [] => .error (.valueIgnored s [])
  | c :: r =>
    match Switch.ofSpelling? ['-', c] with
    | none => .error (.valueIgnored s (c :: r))
    | some next =>
      if next.takesValue then .ok { flags := [s], last := some (next, valueOf r) }
      else
        match r with
        | [] => .ok { flags := [s, next] }
        | d :: rest => (ofJoined next (d :: rest)).map (push s)

/-- The options of a word. -/
def ofUse (u : Use) : Except UsageError Cluster :=
  if u.option.takesValue then .ok { last := some (u.option, u.joined) }
  else
    match u.joined with
    | none => .ok { flags := [u.option] }
    | some value =>
      if Word.dashes.isPrefixOf u.spelling then .error (.valueIgnored u.option value)
      else ofJoined u.option value

/-- Takes the options without value. -/
def apply (c : Cluster) (p : Progress) : Except Stop Progress :=
  c.flags.foldlM Progress.setFlag p

end Cluster

/-- What is left of a value that is joined to its option. Two dashes are taken for the separator, and
nothing is left of them. -/
def joinedValue (value : Text) : Option Text :=
  if value == Word.dashes then none else some value

/-- Takes words from left to right. -/
def readWords (p : Progress) : List Word → Except Stop Progress
  | [] => .ok p
  | .unknown word :: words => readWords (p.addExtra word) words
  | .plain word :: .separator :: words =>
    if p.source.isNone then readWords (p.addPlain word) words
    else readWords ((p.addPlain word).addExtra Word.dashes) words
  | .plain word :: words => readWords (p.addPlain word) words
  | .separator :: .plain word :: words =>
    if p.source.isNone then readWords (p.addPlain word) words
    else readWords ((p.addExtra Word.dashes).addPlain word) words
  | .separator :: words => readWords (p.addExtra Word.dashes) words
  | .option u :: words =>
    match Cluster.ofUse u with
    | .error e => .error (.error e)
    | .ok cluster =>
      match cluster.last, words with
      | none, words => do readWords (← cluster.apply p) words
      | some (s, some value), words => do
        readWords (← (← cluster.apply p).setValue s (joinedValue value)) words
      | some (s, none), .plain value :: words => do
        readWords (← (← cluster.apply p).setValue s (some value)) words
      | some (s, none), _ => .error (.error (.valueMissing s))

/-- The options that have been read, if nothing is missing and all words have a meaning. -/
def Progress.finish (p : Progress) : Except UsageError Options :=
  match p.source, p.extras with
  | none, _ => .error .sourceMissing
  | some _, word :: words => .error (.unrecognized (word :: words))
  | some source, [] =>
    .ok {
      source := source
      output := p.output
      stub := p.stub
      counts := p.counts
      tableName := p.tableName
      encode := p.encode
      verbose := p.verbose }

/-- The options of a command line. -/
def readCommandLine (args : List Text) : Except Stop Options := do
  let words ← (Word.ofLine args).mapError Stop.error
  let progress ← readWords {} words
  progress.finish.mapError Stop.error

end AsmBridge
