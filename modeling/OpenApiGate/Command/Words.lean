import OpenApiGate.Text.Quoted
import OpenApiGate.Text.Similarity

/-!
# The words of a command line

Words that start with a hyphen are options.  A long option may bring its value
after an equals sign or take the next word, whatever it looks like; short
options are letters after one hyphen.  All words after a double hyphen are
arguments.
-/

namespace OpenApiGate.Command

/-- The options. -/
inductive OptionName where
  | help
  | json
  | maxSizeKb
  | ruleset
  | verbose
deriving DecidableEq

namespace OptionName

/-- The long form of an option. -/
def long : OptionName → Text
  | .help => "--help"
  | .json => "--json"
  | .maxSizeKb => "--max-size-kb"
  | .ruleset => "--ruleset"
  | .verbose => "--verbose"

/-- The letter of an option, if it has one. -/
def letter? : OptionName → Option Char
  | .help => some 'h'
  | .verbose => some 'v'
  | _ => none

/-- The option comes with a value. -/
def takesValue : OptionName → Bool
  | .maxSizeKb | .ruleset => true
  | _ => false

/-- All options, in the order of their long forms. -/
def all : List OptionName :=
  [.help, .json, .maxSizeKb, .ruleset, .verbose]

/-- The option with a long form. -/
def ofLong? (text : Text) : Option OptionName :=
  all.find? (·.long = text)

/-- The option with a letter. -/
def ofLetter? (point : CodePoint) : Option OptionName :=
  all.find? fun name => name.letter?.any point.is

end OptionName

/-- Why a command line is refused. -/
inductive UsageError where
  /-- There is no such option; options with similar long forms follow. -/
  | noSuchOption (name : Text) (similar : List Text)
  /-- An option comes without its value. -/
  | missingValue (name : Text)
  /-- An option comes with a value but takes none. -/
  | unexpectedValue (name : Text)
  /-- The size limit is no number. -/
  | notNumber (value : Text)
  /-- The ruleset does not exist. -/
  | noRuleset (path : Text)
  /-- The ruleset is a directory. -/
  | rulesetIsDirectory (path : Text)
  /-- The ruleset may not be read. -/
  | unreadableRuleset (path : Text)
  /-- There are more arguments than the document. -/
  | extraArguments (arguments : List Text)
deriving DecidableEq

/-- The options of a command line with their values, and its arguments, in order. -/
structure Words where
  options : List (OptionName × Text)
  arguments : List Text

namespace Words

/-- One more argument in front. -/
def withArgument
    (argument : Text)
    (words : Words) :
    Words :=
  ⟨words.options, argument :: words.arguments⟩

/-- One more option with a value in front. -/
def withOption
    (name : OptionName)
    (value : Text)
    (words : Words) :
    Words :=
  ⟨(name, value) :: words.options, words.arguments⟩

/-- More options without values in front. -/
def withFlags
    (names : List OptionName)
    (words : Words) :
    Words :=
  ⟨names.map (·, []) ++ words.options, words.arguments⟩

end Words

/-- What one word says about options. -/
inductive OptionWord where
  /-- Options without values. -/
  | flags (names : List OptionName)
  /-- An option with its value. -/
  | valued (name : OptionName) (value : Text)
  /-- An option whose value is the next word. -/
  | awaiting (name : OptionName)

/-- A word that is an option. -/
def isOptionWord (word : Text) : Bool :=
  word.head?.any (CodePoint.is '-') && 1 < word.length

/-- The options whose letters follow one hyphen. -/
def readLetters : Text → Except UsageError (List OptionName)
  | [] => .ok []
  | letter :: rest =>
    match OptionName.ofLetter? letter with
    | none => .error (.noSuchOption ("-" ++ [letter]) [])
    | some name => (readLetters rest).map (name :: ·)

/-- What a word with a known long form says. -/
def readLong
    (name : OptionName)
    (value : Option Text) :
    Except UsageError OptionWord :=
  match name.takesValue, value with
  | true, some value => .ok (.valued name value)
  | true, none => .ok (.awaiting name)
  | false, some _ => .error (.unexpectedValue name.long)
  | false, none => .ok (.flags [name])

/-- An unknown option is answered with at most so many known ones. -/
def offeredOptions : Nat := 3

/-- What a word that is an option says. -/
def readOptionWord (word : Text) : Except UsageError OptionWord :=
  let form := word.takeWhile (!·.is '=')
  let value := if form.length < word.length then some (word.drop (form.length + 1)) else none
  match OptionName.ofLong? form with
  | some name => readLong name value
  | none =>
    if (Text.ofString "--").isPrefixOf word then
      let similar := Text.closest offeredOptions form (OptionName.all.map OptionName.long)
      .error (.noSuchOption form similar)
    else (readLetters (word.drop 1)).map .flags

/-- The options and arguments of a command line. -/
def readWords : List Text → Except UsageError Words
  | [] => .ok ⟨[], []⟩
  | word :: rest =>
    if word = Text.ofString "--" then .ok ⟨[], rest⟩
    else if isOptionWord word then
      match readOptionWord word, rest with
      | .error error, _ => .error error
      | .ok (.flags names), rest => (readWords rest).map (Words.withFlags names)
      | .ok (.valued name value), rest => (readWords rest).map (Words.withOption name value)
      | .ok (.awaiting name), [] => .error (.missingValue name.long)
      | .ok (.awaiting name), value :: after =>
        (readWords after).map (Words.withOption name value)
    else (readWords rest).map (Words.withArgument word)

/-- The value of an option; of several, the last one. -/
def Words.value?
    (words : Words)
    (name : OptionName) :
    Option Text :=
  words.options.reverse.lookup name

/-- The option occurs. -/
def Words.has
    (words : Words)
    (name : OptionName) :
    Bool :=
  (words.value? name).isSome

end OpenApiGate.Command
