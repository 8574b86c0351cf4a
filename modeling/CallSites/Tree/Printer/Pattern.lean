import CallSites.Tree.Printer.Expression

/-! # Printing patterns -/

namespace CallSites.Tree.Printer

section

variable (visit : Value → Print Unit)

/-- A mapping pattern. -/
def mappingPattern (v : Value) : Print Unit :=
  enclose "\x7b" "\x7d" do
    let keys ← attr v "keys"
    let patterns ← attr v "patterns"
    commaPairs (fun key pattern => do
      visit key
      write ": "
      visit pattern) false (← elements keys) (← elements patterns)
    let rest ← attr v "rest"
    if !rest.isNull then
      if keys.truthy then write ", "
      write ("**" ++ (← shownText rest))

/-- A class pattern. -/
def classPattern (v : Value) : Print Unit := do
  let cls ← attr v "cls"
  ask .atom cls
  visit cls
  enclose "(" ")" do
    let patterns ← attr v "patterns"
    commas visit (← elements patterns)
    let names ← attr v "kwd_attrs"
    if names.truthy then
      if patterns.truthy then write ", "
      let keywordPatterns ← attr v "kwd_patterns"
      commaPairs (fun name pattern => do
        write ((← shownText name) ++ "=")
        visit pattern) false (← elements names) (← elements keywordPatterns)

/-- A capture pattern, or a pattern with a name for what it matches. -/
def capturePattern (v : Value) : Print Unit := do
  let name ← attr v "name"
  let pattern ← attr v "pattern"
  if name.isNull then write "_"
  else if pattern.isNull then writeValue name
  else atLevel .test v do
    ask .bitOr pattern
    visit pattern
    write (" as " ++ (← shownText name))

/-- The printing step of a kind of pattern. -/
def pattern? (v : Value) : Kind → Option (Print Unit)
  | .matchValue => some do visit (← attr v "value")
  | .matchSingleton => some do writeConstant (← attr v "value")
  | .matchSequence => some (enclose "[" "]" do commas visit (← attrElements v "patterns"))
  | .matchStar => some do
    let name ← attr v "name"
    let shown ← if name.isNull then pure "_" else shownText name
    write ("*" ++ shown)
  | .matchMapping => some (mappingPattern visit v)
  | .matchClass => some (classPattern visit v)
  | .matchAs => some (capturePattern visit v)
  | .matchOr => some (atLevel .bitOr v do
    let patterns ← attrElements v "patterns"
    patterns.forM (ask Level.bitOr.next)
    separated " | " visit patterns)
  | _ => none

end

end CallSites.Tree.Printer
