import Dispatch.Pattern.CharSet
import Dispatch.Pattern.Phrase
import Std.Data.HashSet

/-!
Patterns and what they match. A pattern is followed along a text by what is left of it to be matched
after each character, so that no choice is ever taken back.
-/

namespace Dispatch

inductive Pattern.Place where
  | textStart
  | textEnd
  | lineStart (carriageReturn : Bool)
  | lineEnd (carriageReturn : Bool)
  | boundary (b : Pattern.Boundary) (inAscii : Bool)
  deriving DecidableEq, Hashable, Inhabited

inductive Pattern where
  | empty
  | one (s : Pattern.CharSet)
  | place (p : Pattern.Place)
  | both (p q : Pattern)
  | either (p q : Pattern)
  | times (p : Pattern) (least : Nat) (most? : Option Nat)
  | group (p : Pattern)
  deriving DecidableEq, Hashable, Inhabited

namespace Pattern

structure Around where
  before? : Option Char
  after? : Option Char
  deriving Inhabited

def isOfWord (c : Char) : Bool := c.isAlphanum || c == '_'

def Boundary.holds (a : Around) (b : Boundary) : Bool :=
  let before := a.before?.any isOfWord
  let after := a.after?.any isOfWord
  match b with
  | .edge => before != after
  | .noEdge => before == after
  | .start => !before && after
  | .stop => before && !after
  | .startHalf => !before
  | .stopHalf => !after

def Place.holds (a : Around) : Place → Bool
  | .textStart => a.before?.isNone
  | .textEnd => a.after?.isNone
  | .lineStart carriageReturn =>
    a.before?.isNone || a.before? == some '\n' ||
      (carriageReturn && a.before? == some '\r' && a.after? != some '\n')
  | .lineEnd carriageReturn =>
    a.after?.isNone ||
      (if carriageReturn then
        a.after? == some '\r' || (a.after? == some '\n' && a.before? != some '\r')
      else a.after? == some '\n')
  | .boundary b _ => b.holds a

def matchesPlace (a : Around) : Pattern → Bool
  | .empty => true
  | .one _ => false
  | .place p => p.holds a
  | .both p q => p.matchesPlace a && q.matchesPlace a
  | .either p q => p.matchesPlace a || q.matchesPlace a
  | .times p least _ => least == 0 || p.matchesPlace a
  | .group p => p.matchesPlace a

def append : Pattern → Pattern → Pattern
  | .empty, q => q
  | p, .empty => p
  | p, q => .both p q

/-- What is left to be matched when a pattern begins with a character. Where a repeated pattern
matches the place itself, any number of times that are demanded may be spent there. -/
def leftAfter (a : Around) (c : Char) : Pattern → List Pattern
  | .empty => []
  | .one s => if s.contains c then [.empty] else []
  | .place _ => []
  | .both p q =>
    let first := (p.leftAfter a c).map (·.append q)
    if p.matchesPlace a then first ++ q.leftAfter a c else first
  | .either p q => p.leftAfter a c ++ q.leftAfter a c
  | .times p least most? =>
    if most? = some 0 then []
    else
      let least := if p.matchesPlace a then 0 else least - 1
      (p.leftAfter a c).map (·.append (.times p least (most?.map (· - 1))))
  | .group p => p.leftAfter a c

def distinct (ps : List Pattern) : List Pattern :=
  if ps.length ≤ 8 then ps.eraseDups else (Std.HashSet.ofList ps).toList

def occursAfter (p : Pattern) (before? : Option Char) (begun : List Pattern) : List Char → Bool
  | [] => (p :: begun).any (·.matchesPlace ⟨before?, none⟩)
  | c :: rest =>
    let a : Around := ⟨before?, some c⟩
    (p :: begun).any (·.matchesPlace a) ||
      occursAfter p (some c) (distinct ((p :: begun).flatMap (·.leftAfter a c))) rest

def occursIn (p : Pattern) (text : String) : Bool := p.occursAfter none [] text.toList

end Pattern

end Dispatch
