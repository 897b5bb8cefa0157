import Fieldwork.Pattern.Basic

namespace Fieldwork.Pattern

/-!
# Matching

For matching a pattern is laid out as a net.  A node reads a character, checks
the place that was reached, leads on in two ways, or says that a part was found.
Repetitions are written out, and one without an upper bound leads back to its
own beginning.

The text is walked through once.  At each place all nodes that can be reached
are followed, each of them once, and a part may begin at every place.
-/

/-- A node of a net; nodes lead to each other by their places in it. -/
inductive Node where
  | char (c : Char) (next : Nat)
  | member (set : Text.CharSet) (next : Nat)
  | check (assertion : Assertion) (ascii : Bool) (next : Nat)
  | fork (first second : Nat)
  | found
  deriving Repr, Inhabited

namespace Node

/-- The node behind a character, if the node reads it. -/
def read?
    (c : Char) :
    Node →
    Option Nat
  | char known next => if known = c then some next else none
  | member set next => if set.contains c then some next else none
  | _ => none

end Node

/-- The nodes of a pattern. -/
abbrev Net : Type :=
  Array Node

namespace Net

/-- A piece of a net before it is laid out: it leads to a node that is there already. -/
abbrev Piece : Type :=
  (next : Nat) → Net → Nat × Net

def add
    (node : Node)
    (net : Net) :
    Nat × Net :=
  (net.size, net.push node)

/-- Copies of a piece, one behind the other. -/
def layCopies
    (piece : Piece) :
    (copies : Nat) →
    Piece
  | 0 => fun next net => (next, net)
  | copies + 1 => fun next net =>
      let (first, net) := piece next net
      layCopies piece copies first net

/-- Copies of a piece, each of which may be left out with all behind it. -/
def layOptional
    (piece : Piece)
    (behind : Nat) :
    (copies : Nat) →
    Piece
  | 0 => fun next net => (next, net)
  | copies + 1 => fun next net =>
      let (first, net) := piece next net
      let (fork, net) := add (.fork first behind) net
      layOptional piece behind copies fork net

/-- A piece any number of times. -/
def layLoop
    (piece : Piece) :
    Piece :=
  fun next net =>
    let (start, net) := add (.fork next next) net
    let (first, net) := piece start net
    (start, net.setIfInBounds start (.fork first next))

/-- The characters of a text, last one first. -/
def layChars :
    (reversed : List Char) →
    Piece
  | [] => fun next net => (next, net)
  | c :: before => fun next net =>
      let (last, net) := add (.char c next) net
      layChars before last net

/-- The nodes of a pattern. -/
def lay :
    Pattern →
    Piece
  | empty => fun next net => (next, net)
  | literal chars => layChars chars.reverse
  | oneOf _ set => fun next => add (.member set next)
  | assert assertion ascii => fun next => add (.check assertion ascii next)
  | group _ body => lay body
  | sequence first rest => fun next net =>
      let (start, net) := lay rest next net
      lay first start net
  | either first rest => fun next net =>
      let (other, net) := lay rest next net
      let (start, net) := lay first next net
      add (.fork start other) net
  | repeated least greatest _ body => fun next net =>
      let (start, net) :=
        match greatest with
        | none => layLoop (lay body) next net
        | some greatest => layOptional (lay body) next (greatest - least) next net
      layCopies (lay body) least start net

end Net

/-- What is reached at a place of a text. -/
structure Front where
  /-- The last place, counted from one, at which each node was reached. -/
  reached : Array Nat
  /-- The nodes that read the character behind the place. -/
  reading : List Nat := []
  isFound : Bool := false

/--
Follow the pending nodes as far as they lead without reading.  A node that was
reached at this place is not followed again, and each leads to at most two, so
twice the size of the net, beside the pending nodes, bounds the steps.
-/
def Front.follow
    (net : Net)
    (place : Place)
    (count : Nat) :
    (fuel : Nat) →
    (pending : List Nat) →
    Front →
    Front
  | 0, _, front => front
  | _, [], front => front
  | fuel + 1, index :: pending, front =>
      if front.reached[index]? = some count then
        follow net place count fuel pending front
      else
        let front := { front with reached := front.reached.setIfInBounds index count }
        match net[index]? with
        | none => follow net place count fuel pending front
        | some .found => { front with isFound := true }
        | some (.fork first second) =>
            follow net place count fuel (first :: second :: pending) front
        | some (.check assertion ascii next) =>
            follow net place count fuel
              (if assertion.holds ascii place then next :: pending else pending) front
        | some _ =>
            follow net place count fuel pending
              { front with reading := index :: front.reading }

/--
Whether a part is found that began earlier and has come to one of the pending
nodes, or begins behind `before` or later.
-/
def matchesFrom
    (net : Net)
    (start : Nat)
    (reached : Array Nat)
    (count : Nat)
    (before : Option Char)
    (pending : List Nat) :
    (text : List Char) →
    Bool
  | [] =>
      (Front.follow net ⟨before, none⟩ count (2 * net.size + pending.length + 1)
        (start :: pending) { reached }).isFound
  | c :: rest =>
      let front :=
        Front.follow net ⟨before, some c⟩ count (2 * net.size + pending.length + 1)
          (start :: pending) { reached }
      front.isFound ||
        matchesFrom net start front.reached (count + 1) (some c)
          (front.reading.filterMap fun index => (net[index]?.bind fun node => node.read? c))
          rest

def isMatch
    (pattern : Pattern)
    (text : String) :
    Bool :=
  let (start, net) := Net.lay pattern 0 #[.found]
  matchesFrom net start (Array.replicate net.size 0) 1 none [] text.toList

/-- Repetitions may be left out, and a part may begin anywhere. -/
example :
    isMatch (sequence (repeated 1 (some 2) false (literal ['a'])) (literal ['b'])) "caab" = true ∧
      isMatch (sequence (assert .textStart false) (literal ['b'])) "ab" = false := by
  decide

end Fieldwork.Pattern
