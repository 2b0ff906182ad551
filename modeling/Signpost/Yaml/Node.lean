import Signpost.Yaml.Token

/-!
# YAML nodes

A document is a tree of scalars, sequences and mappings, in which a node may stand for one that was
named elsewhere. A name that is given again takes the place of the earlier one, and the places are
counted by the names that are known so far.
-/

namespace Signpost.Yaml

inductive Node where
  | scalar (tag : Option String) (plain : Bool) (text : String)
  | sequence (items : List Node)
  | mapping (entries : List (Node × Node))
  | tagged (tag : String) (content : Node)
  | alias (place : Nat)
deriving Repr, Inhabited

structure Document where
  root : Option Node
  /-- The nodes in the places, in no particular order. -/
  places : List (Nat × Node) := []
  /-- How many scalars, aliases, and beginnings and ends of collections there are. -/
  size : Nat := 1

structure Reading where
  tokens : List Token
  handles : List (String × String) := []
  /-- The places of the names, without repetition. -/
  names : List (String × Nat) := []
  /-- The named nodes in the order in which they begin, by their numbers in it; last one first. -/
  begun : List (Nat × Nat) := []
  /-- The named nodes that have ended, by their numbers in the order in which they begin. -/
  ended : List (Nat × Node) := []
  size : Nat := 0

abbrev Reader := StateT Reading Option

namespace Reader

def peek : Reader (Option Token) := do
  return (← get).tokens.head?

def pass : Reader Unit :=
  modify fun r => { r with tokens := r.tokens.drop 1 }

def accept (token : Token) : Reader Bool := do
  if (← peek) = some token then
    pass
    return true
  else return false

def expect (token : Token) : Reader Unit := do
  unless ← accept token do failure

def sees (tokens : List Token) : Reader Bool := do
  match ← peek with
  | some token => return tokens.contains token
  | none => return false

def count (n : Nat) : Reader Unit :=
  modify fun r => { r with size := r.size + n }

def emptyScalar : Reader Node := do
  count 1
  return .scalar none true ""

def beginNamed (name : String) : Reader Nat := do
  let r ← get
  let place := r.names.length
  let names := (name, place) :: r.names.filter fun known => known.1 != name
  let number := r.begun.length
  set { r with names, begun := (place, number) :: r.begun }
  return number

def endNamed (number : Option Nat) (node : Node) : Reader Node := do
  match number with
  | some number => modify fun r => { r with ended := (number, node) :: r.ended }
  | none => pure ()
  return node

def aliasOf (name : String) : Reader Node := do
  let some place := (← get).names.lookup name | failure
  count 1
  return .alias place

def resolveTag (handle suffix : String) : Reader String := do
  if handle = "" then return suffix
  else
    let some lead := (← get).handles.lookup handle | failure
    return lead ++ suffix

def readAnchor : Reader (Option String) := do
  match ← peek with
  | some (.anchor name) =>
    pass
    return some name
  | _ => return none

def readTag : Reader (Option (String × String)) := do
  match ← peek with
  | some (.tag handle suffix) =>
    pass
    return some (handle, suffix)
  | _ => return none

def readProperties : Reader (Option String × Option String) := do
  let before ← readAnchor
  let tag ← readTag
  let name ← if before.isSome then pure before else readAnchor
  let tag ←
    match tag with
    | some (handle, suffix) => some <$> resolveTag handle suffix
    | none => pure none
  return (name, tag)

def withTag (tag : Option String) (node : Node) : Node :=
  match tag with
  | some tag => .tagged tag node
  | none => node

end Reader

open Reader

mutual

/-- A node. In a block there may be block collections, and `indentless` admits a sequence that is
not indented. A scalar whose tag is a bare exclamation mark counts as one without a tag, but not so
if nothing is written. -/
def readNode (fuel : Nat) (block indentless : Bool) : Reader Node :=
  match fuel with
  | 0 => failure
  | fuel + 1 => do
    match ← peek with
    | some (.alias name) =>
      pass
      aliasOf name
    | _ =>
      let (name, tag) ← readProperties
      let bare := name.isNone && tag.isNone
      let number ←
        match name with
        | some name => some <$> beginNamed name
        | none => pure none
      let found ← peek
      if indentless && found = some .blockEntry then
        count 2
        endNamed number (withTag tag (.sequence (← readIndentless fuel)))
      else
        match found with
        | some (.scalar text plain) =>
          pass
          count 1
          endNamed number (.scalar (if tag = some "!" then none else tag) plain text)
        | some .flowSequence =>
          pass
          count 2
          endNamed number (withTag tag (.sequence (← readFlowItems fuel true)))
        | some .flowMapping =>
          pass
          count 2
          endNamed number (withTag tag (.mapping (← readFlowEntries fuel true)))
        | some .blockSequence =>
          if !block then failure
          else
            pass
            count 2
            endNamed number (withTag tag (.sequence (← readBlockItems fuel)))
        | some .blockMapping =>
          if !block then failure
          else
            pass
            count 2
            endNamed number (withTag tag (.mapping (← readBlockEntries fuel)))
        | _ =>
          if bare then failure
          else
            count 1
            endNamed number (.scalar tag true "")

def readNodeBefore (fuel : Nat) (block indentless : Bool) (stops : List Token) : Reader Node :=
  match fuel with
  | 0 => failure
  | fuel + 1 => do
    if ← sees stops then emptyScalar else readNode fuel block indentless

def readBlockItems (fuel : Nat) : Reader (List Node) :=
  match fuel with
  | 0 => failure
  | fuel + 1 => do
    if ← accept .blockEntry then
      let item ← readNodeBefore fuel true false [.blockEntry, .blockEnd]
      return item :: (← readBlockItems fuel)
    else
      expect .blockEnd
      return []

def readIndentless (fuel : Nat) : Reader (List Node) :=
  match fuel with
  | 0 => failure
  | fuel + 1 => do
    if ← accept .blockEntry then
      let item ← readNodeBefore fuel true false [.blockEntry, .key, .value, .blockEnd]
      return item :: (← readIndentless fuel)
    else return []

def readBlockEntries (fuel : Nat) : Reader (List (Node × Node)) :=
  match fuel with
  | 0 => failure
  | fuel + 1 => do
    if ← accept .key then
      let key ← readNodeBefore fuel true true [.key, .value, .blockEnd]
      let value ←
        if ← accept .value then readNodeBefore fuel true true [.key, .value, .blockEnd]
        else emptyScalar
      return (key, value) :: (← readBlockEntries fuel)
    else
      expect .blockEnd
      return []

/-- The entries of a flow sequence up to its end; `first` if none came before. -/
def readFlowItems (fuel : Nat) (first : Bool) : Reader (List Node) :=
  match fuel with
  | 0 => failure
  | fuel + 1 => do
    if ← accept .flowSequenceEnd then return []
    else
      unless first do expect .flowEntry
      if ← accept .key then
        count 2
        let key ←
          if ← sees [.value, .flowEntry, .flowSequenceEnd] then
            pass
            emptyScalar
          else readNode fuel false false
        let value ←
          if ← accept .value then readNodeBefore fuel false false [.flowEntry, .flowSequenceEnd]
          else emptyScalar
        return .mapping [(key, value)] :: (← readFlowItems fuel false)
      else if ← accept .flowSequenceEnd then return []
      else
        let item ← readNode fuel false false
        return item :: (← readFlowItems fuel false)

def readFlowEntries (fuel : Nat) (first : Bool) : Reader (List (Node × Node)) :=
  match fuel with
  | 0 => failure
  | fuel + 1 => do
    if ← accept .flowMappingEnd then return []
    else
      unless first do expect .flowEntry
      if ← accept .key then
        let key ← readNodeBefore fuel false false [.value, .flowEntry, .flowMappingEnd]
        let value ←
          if ← accept .value then readNodeBefore fuel false false [.flowEntry, .flowMappingEnd]
          else emptyScalar
        return (key, value) :: (← readFlowEntries fuel false)
      else if ← accept .flowMappingEnd then return []
      else
        let key ← readNode fuel false false
        let value ← emptyScalar
        return (key, value) :: (← readFlowEntries fuel false)

end

def defaultHandles : List (String × String) :=
  [("!", "!"), ("!!", "tag:yaml.org,2002:")]

/-- The directives before a document; none may be repeated. -/
def readDirectives (fuel : Nat) (version : Bool) : Reader Bool :=
  match fuel with
  | 0 => failure
  | fuel + 1 => do
    match ← peek with
    | some .version =>
      if version then failure
      else
        pass
        readDirectives fuel true
    | some (.tagHandle handle lead) =>
      if ((← get).handles.lookup handle).isSome then failure
      else
        pass
        modify fun r => { r with handles := r.handles ++ [(handle, lead)] }
        readDirectives fuel version
    | _ => return version

def readDocument (fuel : Nat) : Reader (Option Node) := do
  if (← peek).isNone then return none
  else
    let explicit ←
      match ← peek with
      | some .version | some (.tagHandle ..) | some .documentStart => pure true
      | _ => pure false
    if explicit then
      let _ ← readDirectives fuel false
      expect .documentStart
    modify fun r => { r with handles := r.handles ++ defaultHandles }
    let root ←
      match explicit, ← peek with
      | true, none | true, some .documentStart | true, some .documentEnd | true, some .version
      | true, some (.tagHandle ..) => emptyScalar
      | _, _ => readNode fuel true false
    return some root

def skipEnds (tokens : List Token) : List Token :=
  tokens.dropWhile (· == .documentEnd)

def Document.ofText? (s : String) : Option Document := do
  let tokens ← Token.ofText? s
  let (root, r) ← (readDocument (4 * tokens.length + 4)).run { tokens }
  if !(skipEnds r.tokens).isEmpty then none
  else
    let placeOf (place : Nat) : Option (Nat × Node) := do
      let number ← r.begun.lookup place
      let node ← r.ended.lookup number
      return (place, node)
    let places := (r.begun.map (·.1)).eraseDups.filterMap placeOf
    return { root, places, size := if root.isSome then r.size else 1 }

end Signpost.Yaml
