/-!
# Words of a command line

Words are sorted into flags, options with a value, and plain words. A word that begins with a dash
and has more to it names flags or an option; behind two dashes all words are plain. A flag or option
is given at most once.
-/

namespace ApiAtlas.Command

/-- The flags and options that a command has. -/
structure Grammar where
  flags : List String := []
  /-- Flags that also go by a letter. -/
  letters : List (Char × String) := []
  options : List String := []

/-- Sorted words. -/
structure Words where
  flags : List String := []
  options : List (String × String) := []
  plain : List String := []
  /-- The option that the next word is the value of. -/
  pending : Option String := none
  /-- Whether all further words are plain. -/
  onlyPlain : Bool := false
  deriving DecidableEq, Repr

namespace Words

def hasFlag (w : Words) (name : String) : Bool := w.flags.contains name

def option? (w : Words) (name : String) : Option String := w.options.lookup name

def addFlag? (w : Words) (name : String) : Option Words :=
  if w.hasFlag name then none else some { w with flags := name :: w.flags }

def addOption? (w : Words) (name value : String) : Option Words :=
  if (w.option? name).isSome then none
  else some { w with options := (name, value) :: w.options, pending := none }

/-- Adds a word behind two dashes, which may have a value of its own. -/
def addLong? (g : Grammar) (w : Words) (name : List Char) (value : Option (List Char)) :
    Option Words :=
  let name := String.ofList name
  match value with
  | some value => if g.options.contains name then w.addOption? name (String.ofList value) else none
  | none =>
    if g.flags.contains name then w.addFlag? name
    else if g.options.contains name then some { w with pending := some name }
    else none

def add? (g : Grammar) (w : Words) (word : String) : Option Words :=
  let asPlain : Option Words :=
    match w.pending with
    | some name => w.addOption? name word
    | none => some { w with plain := w.plain ++ [word] }
  if w.onlyPlain then asPlain
  else
    match word.toList with
    | ['-', '-'] => if w.pending.isSome then none else some { w with onlyPlain := true }
    | '-' :: '-' :: cs =>
      if w.pending.isSome then none
      else
        let value := match cs.dropWhile (· != '=') with
          | _ :: value => some value
          | [] => none
        w.addLong? g (cs.takeWhile (· != '=')) value
    | '-' :: c :: cs =>
      if w.pending.isSome then none
      else (c :: cs).foldlM (fun w c => (g.letters.lookup c).bind w.addFlag?) w
    | _ => asPlain

/-- Sorts words; an option at the end lacks its value. -/
def sort? (g : Grammar) (words : List String) : Option Words :=
  (words.foldlM (add? g) {}).bind fun w => if w.pending.isSome then none else some w

/-- Sorts words up to the first plain one, which names a command. -/
def sortUntilCommand? (g : Grammar) : Words → List String → Option (Words × String × List String)
  | _, [] => none
  | w, word :: rest => do
    let w ← w.add? g word
    match w.plain with
    | [] => sortUntilCommand? g w rest
    | name :: _ => if w.onlyPlain then none else some (w, name, rest)

end Words

end ApiAtlas.Command
