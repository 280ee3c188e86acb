import CommandChain.Script.Lookup

/-!
# Aliases

An alias is a text that is read in place of a word where a command starts. These commands set,
remove and list aliases; whoever reads the next line of a script uses them.
-/

namespace CommandChain

namespace Script

namespace Builtin

/-- An alias as a command would set it. -/
def aliasLine (entry : Text × Text) : Text :=
  entry.1 ++ .char '=' :: singleQuoted entry.2 ++ [.char '\n']

/-- Sets an alias. One that is there already keeps its place in the list. -/
def setAlias (name text : Text) : Run Unit :=
  Run.changeProcess fun process =>
    { process with
      aliases :=
        if (process.aliases.lookup name).isSome then
          process.aliases.map fun entry => if entry.1 = name then (name, text) else entry
        else process.aliases ++ [(name, text)] }

/-- Says that there is no alias with a name. -/
def noteMissingAlias (command : String) (name : Text) : Run Unit := do
  let _ ← Run.write 2
    (Text.bytes (Text.ofString command ++ Text.ofString ": " ++ name ++
      Text.ofString " not found\n"))

/-- Sets aliases, or shows them. A name has at least one symbol, so that an equals sign may be one. -/
def setAliases : (status : Nat) → Builtin
  | status, [] => return status
  | status, operand :: rest => do
      let (first, later) := (operand.take 1, operand.drop 1)
      match later.span (· != .char '=') with
      | (name, _ :: text) => do
          setAlias (first ++ name) text
          setAliases status rest
      | (_, []) =>
          match (← Run.process).aliases.lookup operand with
          | some text => do
              let printed ← print (Text.bytes (aliasLine (operand, text)))
              setAliases (status ||| printed) rest
          | none => do
              noteMissingAlias "alias" operand
              setAliases 1 rest

/-- Sets or shows aliases; without operands it shows all of them. -/
def defineAliases : Builtin := fun operands => do
  if operands = [] then
    let entries := Meaning.byClass Meaning.aliasClasses Prod.fst (← Run.process).aliases
    print (Text.bytes (entries.flatMap aliasLine))
  else setAliases 0 operands

/-- Removes aliases by their names. -/
def removeAliases : (status : Nat) → Builtin
  | status, [] => return status
  | status, name :: rest => do
      let aliases := (← Run.process).aliases
      if (aliases.lookup name).isSome then
        Run.changeProcess fun process =>
          { process with aliases := aliases.filter fun entry => entry.1 != name }
        removeAliases status rest
      else
        noteMissingAlias "unalias" name
        removeAliases 1 rest

/-- Removes some aliases, or all of them. -/
def unalias : Builtin := fun arguments => do
  let (given, operands) ← options ['a'] arguments
  if given ≠ [] then
    Run.changeProcess fun process => { process with aliases := [] }
    return 0
  else removeAliases 0 operands

end Builtin

end Script

end CommandChain
