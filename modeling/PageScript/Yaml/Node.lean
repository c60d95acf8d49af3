import PageScript.Yaml.Token
import PageScript.Yaml.Plain
import PageScript.Document.Event

/-!
# YAML documents

The tokens of a YAML text become the events of its document.  The grammar is a machine with a stack:
a state for every list and mapping that is open says what may come next.  A text holds one document;
a text with more is not sound.

`Outline` is a document as it is written, with tags, and with aliases that tell only which node they
stand for.  In its `document` every alias is replaced by that node.
-/

namespace PageScript

namespace Yaml

/-- A step of a document as written; an alias tells by an `α` which node it stands for. -/
inductive Step (α : Type) where
  | scalar (anchor tag : Option String) (text : String) (form : ScalarForm)
  /-- A node that was named before. -/
  | alias (node : α)
  | listStart (anchor tag : Option String)
  | listEnd
  | mapStart (anchor tag : Option String)
  | mapEnd

/-- What the grammar expects inside the innermost container. -/
inductive Expect where
  | content
  /-- A dash or the end of the block. -/
  | blockItem
  /-- A dash of a list that is not indented. -/
  | indentlessItem
  /-- A key or the end of the block. -/
  | blockKey
  | blockValue
  /-- An item in brackets; a comma must come first unless it is the first item. -/
  | flowItem (first : Bool)
  /-- The key of a pair that stands in brackets by itself. -/
  | pairKey
  | pairValue
  | pairEnd
  /-- A key in braces; a comma must come first unless it is the first key. -/
  | flowKey (first : Bool)
  /-- The value of a key in braces. -/
  | flowValue
  /-- The value of a key in braces that has none. -/
  | flowNoValue

/-- The handles of tags with their addresses. -/
abbrev Handles := List (String × String)

/-- The handles that need no directive. -/
def usualHandles : Handles := [("!", "!"), ("!!", "tag:yaml.org,2002:")]

/-- A node as far as its properties go. -/
structure Properties where
  anchor : Option String
  tag : Option String

/-- A tag in full; a handle that is not known is a fault. -/
def fullTag (handles : Handles) (t : TagText) : Option String :=
  if t.handle.isEmpty then some t.suffix
  else (handles.lookup t.handle).map (· ++ t.suffix)

/-- The name and the tag in front of a node, in any order. -/
def readProperties (handles : Handles) : List Token → Option (Properties × List Token)
  | .anchor a :: .tag t :: rest => (fullTag handles t).map fun t => (⟨some a, some t⟩, rest)
  | .tag t :: .anchor a :: rest => (fullTag handles t).map fun t => (⟨some a, some t⟩, rest)
  | .anchor a :: rest => some (⟨some a, none⟩, rest)
  | .tag t :: rest => (fullTag handles t).map fun t => (⟨none, some t⟩, rest)
  | rest => some (⟨none, none⟩, rest)

/-- An empty scalar. -/
def emptyScalar : Step String := .scalar none none "" .plain

/-- A move of the machine: the steps it gives, what is expected now, and the tokens left. -/
structure Move where
  /-- The step, if the move gives one. -/
  step : Option (Step String)
  stack : List Expect
  rest : List Token

/-- The beginning of a node.  `block` allows blocks, and `indentless` a list that is not
indented. -/
def beginNode (handles : Handles) (block indentless : Bool) (stack : List Expect)
    (ts : List Token) : Option Move :=
  match ts with
  | .alias name :: rest => some ⟨some (.alias name), stack, rest⟩
  | _ =>
    match readProperties handles ts with
    | none => none
    | some (⟨anchor, tag⟩, rest) =>
      match rest with
      | [] => none
      | t :: after =>
        let empty : Option Move :=
          if anchor.isSome || tag.isSome then
            some ⟨some (.scalar anchor tag "" .plain), stack, rest⟩
          else none
        match t with
        | .blockEntry =>
          if indentless then
            some ⟨some (.listStart anchor tag), .indentlessItem :: stack, rest⟩
          else empty
        | .scalar text form => some ⟨some (.scalar anchor tag text form), stack, after⟩
        | .flowListStart => some ⟨some (.listStart anchor tag), .flowItem true :: stack, after⟩
        | .flowMapStart => some ⟨some (.mapStart anchor tag), .flowKey true :: stack, after⟩
        | .blockListStart =>
          if block then some ⟨some (.listStart anchor tag), .blockItem :: stack, after⟩ else empty
        | .blockMapStart =>
          if block then some ⟨some (.mapStart anchor tag), .blockKey :: stack, after⟩ else empty
        | _ => empty

/-- The next item of a block mapping or list begins here, so the one before it is empty. -/
def endsItem : Token → Bool
  | .key | .value | .blockEnd => true
  | _ => false

/-- One move of the machine inside a document. -/
def move (handles : Handles) (e : Expect) (stack : List Expect) (ts : List Token) :
    Option Move :=
  let empty (next : List Expect) (rest : List Token) : Option Move :=
    some ⟨some emptyScalar, next, rest⟩
  match e, ts with
  | _, [] => none
  | .content, t :: _ =>
    match t with
    | .directive _ | .documentStart | .documentEnd | .streamEnd => empty stack ts
    | _ => beginNode handles true false stack ts
  | .blockItem, t :: rest =>
    match t with
    | .blockEntry =>
      match rest with
      | [] => none
      | .blockEntry :: _ => empty (.blockItem :: stack) rest
      | .blockEnd :: _ => empty (.blockItem :: stack) rest
      | _ => beginNode handles true false (.blockItem :: stack) rest
    | .blockEnd => some ⟨some .listEnd, stack, rest⟩
    | _ => none
  | .indentlessItem, t :: rest =>
    match t with
    | .blockEntry =>
      match rest with
      | [] => none
      | .blockEntry :: _ => empty (.indentlessItem :: stack) rest
      | next :: _ =>
        if endsItem next then empty (.indentlessItem :: stack) rest
        else beginNode handles true false (.indentlessItem :: stack) rest
    | _ => some ⟨some .listEnd, stack, ts⟩
  | .blockKey, t :: rest =>
    match t with
    | .key =>
      match rest with
      | [] => none
      | next :: _ =>
        if endsItem next then empty (.blockValue :: stack) rest
        else beginNode handles true true (.blockValue :: stack) rest
    | .blockEnd => some ⟨some .mapEnd, stack, rest⟩
    | _ => none
  | .blockValue, t :: rest =>
    match t with
    | .value =>
      match rest with
      | [] => none
      | next :: _ =>
        if endsItem next then empty (.blockKey :: stack) rest
        else beginNode handles true true (.blockKey :: stack) rest
    | _ => empty (.blockKey :: stack) ts
  | .flowItem first, t :: rest =>
    let item (ts : List Token) : Option Move :=
      match ts with
      | [] => none
      | .key :: rest =>
        some ⟨some (.mapStart none none), .pairKey :: .flowItem false :: stack, rest⟩
      | .flowListEnd :: rest => some ⟨some .listEnd, stack, rest⟩
      | _ => beginNode handles false false (.flowItem false :: stack) ts
    match t with
    | .flowListEnd => some ⟨some .listEnd, stack, rest⟩
    | .flowEntry => if first then item ts else item rest
    | _ => if first then item ts else none
  | .pairKey, t :: rest =>
    match t with
    | .value | .flowEntry | .flowListEnd => empty (.pairValue :: stack) rest
    | _ => beginNode handles false false (.pairValue :: stack) ts
  | .pairValue, t :: rest =>
    match t with
    | .value =>
      match rest with
      | [] => none
      | .flowEntry :: _ => empty (.pairEnd :: stack) rest
      | .flowListEnd :: _ => empty (.pairEnd :: stack) rest
      | _ => beginNode handles false false (.pairEnd :: stack) rest
    | _ => empty (.pairEnd :: stack) ts
  | .pairEnd, _ => some ⟨some .mapEnd, stack, ts⟩
  | .flowKey first, t :: rest =>
    let entry (ts : List Token) : Option Move :=
      match ts with
      | [] => none
      | .flowMapEnd :: rest => some ⟨some .mapEnd, stack, rest⟩
      | .key :: rest =>
        match rest with
        | [] => none
        | .value :: _ => empty (.flowValue :: .flowKey false :: stack) rest
        | .flowEntry :: _ => empty (.flowValue :: .flowKey false :: stack) rest
        | .flowMapEnd :: _ => empty (.flowValue :: .flowKey false :: stack) rest
        | _ => beginNode handles false false (.flowValue :: .flowKey false :: stack) rest
      | _ => beginNode handles false false (.flowNoValue :: .flowKey false :: stack) ts
    match t with
    | .flowMapEnd => some ⟨some .mapEnd, stack, rest⟩
    | .flowEntry => if first then entry ts else entry rest
    | _ => if first then entry ts else none
  | .flowValue, t :: rest =>
    match t with
    | .value =>
      match rest with
      | [] => none
      | .flowEntry :: _ => empty stack rest
      | .flowMapEnd :: _ => empty stack rest
      | _ => beginNode handles false false stack rest
    | _ => empty stack ts
  | .flowNoValue, _ => empty stack ts

/-- The tokens behind the end of a document are the end of the text. -/
def endsText : List Token → Bool
  | .documentEnd :: rest => endsText rest
  | .streamEnd :: _ => true
  | _ => false

/-- The steps of the document.  Every token allows a bounded number of moves, which `fuel` counts. -/
def steps (handles : Handles) (sound : Bool) : Nat → List Expect → List Token → List (Step String) × Bool
  | 0, _, _ => ([], false)
  | _ + 1, [], ts => ([], sound && endsText ts)
  | fuel + 1, e :: stack, ts =>
    match move handles e stack ts with
    | none => ([], false)
    | some m =>
      let (rest, sound) := steps handles sound fuel m.stack m.rest
      (match m.step with
        | some s => s :: rest
        | none => rest, sound)

/-- The directives in front of a document, checked: one version that is known, no handle twice. -/
def readDirectives : (version : Bool) → Handles → List Token → Option (Handles × List Token)
  | seen, handles, .directive d :: rest =>
    match d with
    | .version major minor =>
      if seen || major ≠ 1 || (minor ≠ 1 && minor ≠ 2) then none
      else readDirectives true handles rest
    | .tag handle address =>
      if (handles.lookup handle).isSome then none
      else readDirectives seen ((handle, address) :: handles) rest
  | _, handles, rest => some (handles, rest)

/-- The steps of the first document of a text. -/
def firstDocument (ts : List Token) (sound : Bool) : List (Step String) × Bool :=
  let fuel := 4 * ts.length + 8
  match ts with
  | .streamEnd :: _ => ([], sound)
  | .directive _ :: _ | .documentStart :: _ =>
    match readDirectives false [] ts with
    | some (handles, .documentStart :: rest) =>
      steps (handles ++ usualHandles) sound fuel [.content] rest
    | _ => ([], false)
  | [] | .documentEnd :: _ => ([], false)
  | _ => steps usualHandles sound fuel [.content] ts

/-! ## Names of nodes -/

/-- The nodes that have names.  A new node has for its number the number of names known before it,
so where a name is given again, nodes may share a number; the last of them has it. -/
structure Anchors where
  numbers : List (String × Nat)
  /-- The step at which the node of a number begins; the first entry of a number counts. -/
  places : List (Nat × Nat)

/-- One more node, which begins at a step. -/
def Anchors.add (as : Anchors) (step : Nat) : Option String → Anchors
  | none => as
  | some name =>
    let number := as.numbers.length
    ⟨(name, number) :: as.numbers.filter (·.1 ≠ name), (number, step) :: as.places⟩

/-- Steps with the names of nodes replaced by their numbers, and the nodes that have names; a name
that is not known is a fault.  `step` steps are in front, and `known` holds the nodes there. -/
def placeSteps (step : Nat) (known : Anchors) :
    List (Step String) → List (Step Nat) × Anchors × Bool
  | [] => ([], known, true)
  | s :: rest =>
    let add (anchor : Option String) (p : Step Nat) : List (Step Nat) × Anchors × Bool :=
      let (ps, known, sound) := placeSteps (step + 1) (known.add step anchor) rest
      (p :: ps, known, sound)
    match s with
    | .alias name =>
      match known.numbers.lookup name with
      | some number => add none (.alias number)
      | none => ([], known, false)
    | .scalar anchor tag text form => add anchor (.scalar anchor tag text form)
    | .listStart anchor tag => add anchor (.listStart anchor tag)
    | .listEnd => add none .listEnd
    | .mapStart anchor tag => add anchor (.mapStart anchor tag)
    | .mapEnd => add none .mapEnd

/-- A document whose aliases are not replaced yet. -/
structure Outline where
  steps : List (Step Nat)
  /-- The step at which the node of a number begins; the first entry of a number counts. -/
  places : List (Nat × Nat)
  /-- Nothing is wrong behind the steps. -/
  sound : Bool

/-- The outline of a YAML text.  A text without content has no steps. -/
def outline (text : String) : Outline :=
  let (ts, sound) := tokens text
  let (steps, sound) := firstDocument ts sound
  let (placed, known, named) := placeSteps 0 ⟨[], []⟩ steps
  match placed with
  | [.scalar _ _ "" .plain] => ⟨[], known.places, sound && named⟩
  | _ => ⟨placed, known.places, sound && named⟩

/-- The steps from the node of a number on. -/
def Outline.node (o : Outline) (number : Nat) : List (Step Nat) :=
  match o.places.lookup number with
  | some place => o.steps.drop place
  | none => []

/-! ## Events -/

/-- A tag that gives a node a type of its own. -/
def isForeign (tag : Option String) : Bool := tag.any fun t => t.toList.head? = some '!'

/-- The event that a step is, or the node that it stands for. -/
def Step.event {α : Type} : Step α → α ⊕ Event
  | .alias node => .inl node
  | .scalar _ tag text form => .inr (.scalar text (meaning text (form = .plain) tag))
  | .listStart _ tag => .inr (.listStart (isForeign tag))
  | .listEnd => .inr .listEnd
  | .mapStart _ tag => .inr (.mapStart (isForeign tag))
  | .mapEnd => .inr .mapEnd

/-- How many more containers are open behind an event. -/
def depthChange : Event → Int
  | .listStart _ => 1
  | .mapStart _ => 1
  | .listEnd => -1
  | .mapEnd => -1
  | .scalar .. => 0

/-- The events of steps, every alias replaced by the node that it stands for.  `returns` holds
the places to return to, each with the number of containers open in the node there.  Too many jumps
are a fault. -/
def follow (steps : Array (Step Nat)) (places : List (Nat × Nat)) :
    (fuel jumps : Nat) → (at_ : Nat) → (opened : Int) → (returns : List (Nat × Int)) →
    List Event × Bool
  | 0, _, _, _, _ => ([], false)
  | fuel + 1, jumps, n, opened, returns =>
    match steps[n]?.map Step.event with
    | none => ([], true)
    | some (.inl number) =>
      match jumps, places.lookup number with
      | jumps + 1, some target =>
        follow steps places fuel jumps target 0 ((n + 1, opened) :: returns)
      | _, _ => ([], false)
    | some (.inr e) =>
      let opened := opened + depthChange e
      let (n, opened, returns) := goBack (n + 1) opened returns
      let (es, sound) := follow steps places fuel jumps n opened returns
      (e :: es, sound)
where
  /-- Behind a complete node that was jumped to, the way goes on behind the jump; when that jump
  was all of a node itself, on behind that one too. -/
  goBack (n : Nat) (opened : Int) : List (Nat × Int) → Nat × Int × List (Nat × Int)
    | [] => (n, opened, [])
    | (back, before) :: rest =>
      if opened = 0 then goBack back before rest else (n, opened, (back, before) :: rest)

/-- The number of jumps that are followed for every step of a document. -/
def jumpLimit : Nat := 100

/-- The document of an outline. -/
def Outline.document (o : Outline) : Document :=
  let steps := o.steps.toArray
  let jumps := jumpLimit * steps.size
  let (events, followed) := follow steps o.places ((jumps + 1) * (steps.size + 1)) jumps 0 0 []
  ⟨events, o.sound && followed⟩

/-- The document of a YAML text. -/
def document (text : String) : Document := (outline text).document

/-- Containers that are nested deeper are refused. -/
def depthLimit : Nat := 128

end Yaml

end PageScript
