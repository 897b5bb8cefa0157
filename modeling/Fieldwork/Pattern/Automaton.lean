import Fieldwork.Pattern.Build
import Fieldwork.Pattern.Bytes
import Std.Data.HashMap

namespace Fieldwork.Pattern

/-!
# The size of automata

A pattern is searched for by two automata over bytes, one that reads forward
and marks groups and one that reads backward.  A pattern is accepted only if
each of them fits into a fixed room, so their construction is carried out here
as far as it determines their size: which states there are, how many
transitions each has, and which states of a set are shared.

A piece of an automaton ends in a state that is linked to what follows.  Such a
link takes room only where the state is a branching one, which lists its
successors.
-/

/-- An automaton as far as it is built. -/
structure Automaton where
  states : Nat
  /-- The bytes that transitions and successors take, beside those of the states. -/
  listed : Nat
  deriving Repr

namespace Automaton

/-- The bytes of a state. -/
def stateSize : Nat :=
  32

/-- The bytes of a transition in a list of them. -/
def transitionSize : Nat :=
  8

/-- The bytes of a successor of a branching state. -/
def successorSize : Nat :=
  4

/-- The bytes that an automaton may take. -/
def room : Nat :=
  10485760

/-- An automaton with more states and lists, if it fits into the room. -/
def grow?
    (automaton : Automaton)
    (states listed : Nat) :
    Option Automaton :=
  let grown : Automaton := ⟨automaton.states + states, automaton.listed + listed⟩
  if grown.states * stateSize + grown.listed ≤ room then some grown else none

/-- What a link from a state takes. -/
def linkSize
    (branching : Bool) :
    Nat :=
  if branching then successorSize else 0

end Automaton

/-- A transition: the bytes that it is taken on, and the state that it leads to. -/
structure Transition where
  first : Nat
  last : Nat
  target : Nat
  deriving DecidableEq, Repr

/-- One step of the mixing of numbers into a key. -/
def mix
    (key : UInt64)
    (value : Nat) :
    UInt64 :=
  (key ^^^ value.toUInt64) * 1099511628211

/-- The key before any number is mixed into it. -/
def emptyKey : UInt64 :=
  14695981039346656037

/--
The states that were built for a set and may be shared.  Each state has one
place among a fixed number, which the latest one holds.
-/
abbrev Shared : Type :=
  Std.HashMap Nat (List Transition × Nat)

/-- The place of a state with given transitions. -/
def placeOf
    (places : Nat)
    (transitions : List Transition) :
    Nat :=
  (transitions.foldl
    (fun key transition =>
      mix (mix (mix key transition.first) transition.last) transition.target)
    emptyKey).toNat % places

/-- A state with given transitions, which is shared or new. -/
def shareState
    (automaton : Automaton)
    (shared : Shared)
    (transitions : List Transition) :
    Option (Nat × Automaton × Shared) :=
  let place := placeOf 10000 transitions
  let isKnown :=
    shared[place]?.bind fun (known, state) =>
      if known = transitions then some state else none
  match isKnown with
  | some state => some (state, automaton, shared)
  | none =>
      (automaton.grow? 1 (transitions.length * Automaton.transitionSize)).map fun grown =>
        (automaton.states, grown, shared.insert place (transitions, automaton.states))

/-- A state of a set that is not built yet: its transitions, and the one being read. -/
structure OpenState where
  /-- The transitions so far, last one first. -/
  done : List Transition
  last : Option ByteRange
  deriving Repr

namespace OpenState

/-- A state whose last transition leads to a given state. -/
def settle
    (state : OpenState)
    (target : Nat) :
    OpenState :=
  match state.last with
  | some (first, last) => ⟨⟨first, last, target⟩ :: state.done, none⟩
  | none => state

def startingWith
    (range : ByteRange) :
    OpenState :=
  ⟨[], some range⟩

end OpenState

/-- How many leading ranges of a sequence are those that are open already. -/
def sharedLength :
    List ByteRange →
    List OpenState →
    Nat
  | range :: ranges, state :: states =>
      if state.last = some range then sharedLength ranges states + 1 else 0
  | _, _ => 0

/--
Build the open states, deepest one first, except for the first `kept` and the
one behind them.  `target` is where the deepest leads to.
-/
def buildOpen
    (automaton : Automaton)
    (shared : Shared)
    (target kept : Nat) :
    List OpenState →
    Option (List OpenState × Automaton × Shared)
  | [] => some ([], automaton, shared)
  | state :: states =>
      if states.length ≤ kept then
        some (state.settle target :: states, automaton, shared)
      else
        match shareState automaton shared (state.settle target).done.reverse with
        | none => none
        | some (built, automaton, shared) =>
            buildOpen automaton shared built kept states

/-- The states of a set that is read forward, one sequence after the other. -/
def buildSequences
    (final : Nat) :
    (automaton : Automaton) →
    (shared : Shared) →
    (states : List OpenState) →
    List (List ByteRange) →
    Option Automaton
  | automaton, shared, states, [] =>
      match buildOpen automaton shared final 0 states with
      | some ([root], automaton, shared) =>
          (shareState automaton shared root.done.reverse).map fun built => built.2.1
      | _ => none
  | automaton, shared, states, ranges :: rest =>
      let kept := sharedLength ranges states.reverse
      match buildOpen automaton shared final kept states with
      | some (state :: states, automaton, shared) =>
          let opened :=
            match ranges.drop kept with
            | [] => state :: states
            | range :: deeper =>
                (deeper.map OpenState.startingWith).reverse ++
                  { state with last := some range } :: states
          buildSequences final automaton shared opened rest
      | _ => none

/--
The states of one sequence of a set that is read backward.  Each has a single
transition and may be shared.
-/
def chainBackward
    (automaton : Automaton)
    (shared : Shared)
    (target : Nat) :
    List ByteRange →
    Option (Automaton × Shared)
  | [] => some (automaton, shared)
  | (first, last) :: rest =>
      let place := (mix (mix (mix emptyKey target) first) last).toNat % 1000
      let transitions := [Transition.mk first last target]
      let isKnown :=
        shared[place]?.bind fun (known, state) =>
          if known = transitions then some state else none
      match isKnown with
      | some state => chainBackward automaton shared state rest
      | none =>
          match automaton.grow? 1 0 with
          | none => none
          | some grown =>
              chainBackward grown (shared.insert place (transitions, automaton.states))
                automaton.states rest

/-- The states of a set that is read backward, one sequence after the other. -/
def buildBackward
    (final : Nat) :
    (automaton : Automaton) →
    (shared : Shared) →
    List (List ByteRange) →
    Option Automaton
  | automaton, _, [] => some automaton
  | automaton, shared, ranges :: rest =>
      match chainBackward automaton shared final ranges with
      | none => none
      | some (automaton, shared) =>
          match automaton.grow? 0 Automaton.successorSize with
          | none => none
          | some automaton => buildBackward final automaton shared rest

/--
The states of a set.  A set of ASCII characters is one state with a transition
for each range; the sequences of any other end in a common state.
-/
def buildSet
    (backward : Bool)
    (set : Text.CharSet)
    (automaton : Automaton) :
    Option Automaton :=
  if set.isAscii then
    automaton.grow? 2 (set.ranges.size * Automaton.transitionSize)
  else if backward then
    (automaton.grow? 2 0).bind fun grown =>
      buildBackward (automaton.states + 1) grown ∅ (sequencesOf set)
  else
    (automaton.grow? 1 0).bind fun grown =>
      buildSequences automaton.states grown ∅ [⟨[], none⟩] (sequencesOf set)

def bytesOfText
    (chars : List Char) :
    List Nat :=
  chars.flatMap fun c => encodeCode c.toNat

/-- The texts of a choice between texts only. -/
def textsOfBranches? :
    Pattern →
    Option (List (List Char))
  | literal chars => some [chars]
  | either (literal chars) rest => (textsOfBranches? rest).map (chars :: ·)
  | _ => none

/-- The lists between empty ones; empty ones in front of all others count once. -/
def chunksOf
    (current : List (List Nat)) :
    List (List Nat) →
    List (List (List Nat))
  | [] => [current.reverse]
  | [] :: rest => current.reverse :: chunksOf [] rest
  | bytes :: rest => chunksOf (bytes :: current) rest

/-- Different first bytes of lists. -/
def firstBytes
    (lists : List (List Nat)) :
    List Nat :=
  (lists.filterMap List.head?).eraseDups

/--
The states and the bytes of lists of a tree of texts, of which `texts` are the
rests at one node.  A text that ends at a node divides those before it from
those behind it.  Where all of them end, no state is needed.
-/
def treeSize :
    (depth : Nat) →
    (texts : List (List Nat)) →
    Nat × Nat
  | 0, _ => (0, 0)
  | depth + 1, texts =>
      if texts.all List.isEmpty then (0, 0)
      else
        let leading := texts.takeWhile List.isEmpty
        let chunks := chunksOf [] (leading.take 1 ++ texts.dropWhile List.isEmpty)
        let filled := chunks.filter fun chunk => !chunk.isEmpty
        let successors := filled.length + (chunks.length - 1)
        let here :=
          filled.map fun chunk =>
            let count := (firstBytes chunk).length
            if count = 1 then 0 else count * Automaton.transitionSize
        let deeper :=
          filled.flatMap fun chunk =>
            (firstBytes chunk).map fun byte =>
              treeSize depth ((chunk.filter fun bytes => bytes.head? = some byte).map List.tail)
        (filled.length + 1 + (deeper.map Prod.fst).sum,
          successors * Automaton.successorSize + here.sum + (deeper.map Prod.snd).sum)

/-- Copies of a piece behind what ends in a branching state or not. -/
def buildCopies
    (piece : Automaton → Option (Bool × Automaton)) :
    (copies : Nat) →
    (branching : Bool) →
    (automaton : Automaton) →
    Option (Bool × Automaton)
  | 0, branching, automaton => some (branching, automaton)
  | copies + 1, branching, automaton =>
      match piece automaton with
      | none => none
      | some (next, automaton) =>
          match automaton.grow? 0 (Automaton.linkSize branching) with
          | none => none
          | some automaton => buildCopies piece copies next automaton

/-- A number of copies of a piece; none of them takes one state. -/
def buildExactly
    (piece : Automaton → Option (Bool × Automaton))
    (copies : Nat)
    (automaton : Automaton) :
    Option (Bool × Automaton) :=
  match copies with
  | 0 => (automaton.grow? 1 0).map fun automaton => (false, automaton)
  | copies + 1 =>
      match piece automaton with
      | none => none
      | some (branching, automaton) => buildCopies piece copies branching automaton

/-- Copies of a piece each of which may be left out with all behind it. -/
def buildOptional
    (piece : Automaton → Option (Bool × Automaton)) :
    (copies : Nat) →
    (branching : Bool) →
    (automaton : Automaton) →
    Option Automaton
  | 0, branching, automaton => automaton.grow? 0 (Automaton.linkSize branching)
  | copies + 1, branching, automaton =>
      match automaton.grow? 1
          (2 * Automaton.successorSize + Automaton.linkSize branching) with
      | none => none
      | some automaton =>
          match piece automaton with
          | none => none
          | some (next, automaton) => buildOptional piece copies next automaton

/-- A repetition of a piece, which describes the empty part or does not. -/
def buildRepeated
    (piece : Automaton → Option (Bool × Automaton))
    (mayBeEmpty : Bool)
    (least : Nat)
    (greatest : Option Nat)
    (automaton : Automaton) :
    Option (Bool × Automaton) :=
  let successor := Automaton.successorSize
  match greatest with
  | none =>
      if 2 ≤ least then do
        let (branching, automaton) ← buildExactly piece (least - 1) automaton
        let (last, automaton) ← piece automaton
        let automaton ←
          automaton.grow? 1
            (Automaton.linkSize branching + Automaton.linkSize last + successor)
        return (true, automaton)
      else if least = 1 then do
        let (last, automaton) ← piece automaton
        let automaton ← automaton.grow? 1 (Automaton.linkSize last + successor)
        return (true, automaton)
      else if mayBeEmpty then do
        let (last, automaton) ← piece automaton
        let automaton ← automaton.grow? 3 (Automaton.linkSize last + 4 * successor)
        return (false, automaton)
      else do
        let automaton ← automaton.grow? 1 successor
        let (last, automaton) ← piece automaton
        let automaton ← automaton.grow? 0 (Automaton.linkSize last)
        return (true, automaton)
  | some greatest =>
      if greatest = least then
        buildExactly piece least automaton
      else if least = 0 ∧ greatest = 1 then do
        let automaton ← automaton.grow? 1 (2 * successor)
        let (last, automaton) ← piece automaton
        let automaton ← automaton.grow? 1 (Automaton.linkSize last)
        return (false, automaton)
      else do
        let (branching, automaton) ← buildExactly piece least automaton
        let automaton ← automaton.grow? 1 0
        let automaton ← buildOptional piece (greatest - least) branching automaton
        return (false, automaton)

mutual

/--
The states of a pattern, if they fit, and whether the last of them is a
branching one.
-/
def build
    (backward : Bool)
    (pattern : Pattern)
    (automaton : Automaton) :
    Option (Bool × Automaton) :=
  match pattern with
  | empty => (automaton.grow? 1 0).map fun automaton => (false, automaton)
  | literal chars =>
      (automaton.grow? (bytesOfText chars).length 0).map fun automaton => (false, automaton)
  | oneOf _ set => (buildSet backward set automaton).map fun automaton => (false, automaton)
  | assert _ _ => (automaton.grow? 1 0).map fun automaton => (false, automaton)
  | group _ body =>
      if backward then
        build backward body automaton
      else do
        let automaton ← automaton.grow? 1 0
        let (branching, automaton) ← build backward body automaton
        let automaton ← automaton.grow? 1 (Automaton.linkSize branching)
        return (false, automaton)
  | sequence first rest =>
      if backward then do
        let (branching, automaton) ← build backward rest automaton
        let (last, automaton) ← build backward first automaton
        let automaton ← automaton.grow? 0 (Automaton.linkSize branching)
        return (last, automaton)
      else do
        let (branching, automaton) ← build backward first automaton
        let (last, automaton) ← build backward rest automaton
        let automaton ← automaton.grow? 0 (Automaton.linkSize branching)
        return (last, automaton)
  | either first rest =>
      match textsOfBranches? (either first rest) with
      | some texts =>
          let texts := texts.map fun chars =>
            if backward then (bytesOfText chars).reverse else bytesOfText chars
          let (states, listed) := treeSize ((texts.map List.length).foldl max 0 + 1) texts
          (automaton.grow? (states + 1) listed).map fun automaton => (false, automaton)
      | none => do
          let (branching, automaton) ← build backward first automaton
          let automaton ←
            automaton.grow? 0 (Automaton.successorSize + Automaton.linkSize branching)
          let automaton ← buildBranches backward true rest automaton
          return (false, automaton)
  | repeated least greatest _ body =>
      buildRepeated (build backward body) ((shortest? body).all (· = 0)) least greatest
        automaton
termination_by (sizeOf pattern, 0)

/--
The states of the later branches of a choice.  The second of them is followed
by the two states that all branches begin and end in.
-/
def buildBranches
    (backward : Bool) :
    (isSecond : Bool) →
    Pattern →
    Automaton →
    Option Automaton
  | isSecond, either first rest, automaton => do
      let (branching, automaton) ← build backward first automaton
      let automaton ←
        automaton.grow? (if isSecond then 2 else 0)
          (Automaton.successorSize + Automaton.linkSize branching)
      buildBranches backward false rest automaton
  | isSecond, last, automaton => do
      let (branching, automaton) ← build backward last automaton
      automaton.grow? (if isSecond then 2 else 0)
        (Automaton.successorSize + Automaton.linkSize branching)
termination_by _ pattern _ => (sizeOf pattern, 1)

end

/-- Whether each part that a pattern describes begins at the start of the text. -/
def beginsAtStart :
    Pattern →
    Bool
  | assert .textStart _ => true
  | group _ body => beginsAtStart body
  | sequence first rest =>
      beginsAtStart first || (isVoid first && beginsAtStart rest)
  | either first rest => beginsAtStart first && beginsAtStart rest
  | repeated least _ _ body => 0 < least && beginsAtStart body
  | _ => false

/-- Whether each part that a pattern describes ends at the end of the text. -/
def endsAtEnd :
    Pattern →
    Bool
  | assert .textEnd _ => true
  | group _ body => endsAtEnd body
  | sequence first rest =>
      endsAtEnd rest || (isVoid rest && endsAtEnd first)
  | either first rest => endsAtEnd first && endsAtEnd rest
  | repeated least _ _ body => 0 < least && endsAtEnd body
  | _ => false

/--
The automaton of a pattern in one direction, if it fits: a loop over any bytes
before the pattern, unless the pattern is tied to the place where reading
begins, the pattern as a group of its own, and a state that reports the match.
-/
def automaton?
    (backward : Bool)
    (pattern : Pattern) :
    Option Automaton :=
  let isTied := if backward then endsAtEnd pattern else beginsAtStart pattern
  let start : Automaton := ⟨0, 0⟩
  do
    let automaton ←
      if isTied then start.grow? 1 0
      else start.grow? 3 (Automaton.transitionSize + 2 * Automaton.successorSize)
    let (branching, automaton) ← build backward (group 0 pattern) automaton
    automaton.grow? 1 (Automaton.linkSize branching)

/-- Whether the automata of a pattern fit into the room for them. -/
def fits
    (pattern : Pattern) :
    Bool :=
  (automaton? false pattern).isSome && (automaton? true pattern).isSome

end Fieldwork.Pattern
