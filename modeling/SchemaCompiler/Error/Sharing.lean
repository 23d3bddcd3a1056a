import SchemaCompiler.Error.Basic
import SchemaCompiler.OrderedMap

/-!
# Shared errors

Errors can be held in several places at once. A holder that adds context to an error gives up both
the error and the context; the links of the error stay shared with its other holders. Context that
someone else still holds, or that is itself a chain, cannot become a link: it is kept as a remark
with the same words, and so loses its category.

Links are numbered in the order in which they came to be, and a link points only to an earlier one.
Whether a link is shared is read off what the holders can reach.

Main definitions: `ErrorPool`, `ErrorPool.toError`, `ErrorPool.holders` and the operations on the
stack of held errors.
-/

namespace SchemaCompiler

/-- A link of an error: its fault, and the number of the link that caused it. -/
structure ErrorLink where
  fault : Fault
  cause : Option Nat
  deriving DecidableEq, Repr

/-- All links that ever came to be, and the numbers of the links held, the latest first. -/
structure ErrorPool where
  links : List ErrorLink
  held : List Nat
  deriving DecidableEq, Repr

namespace ErrorPool

/-- Nothing is held. -/
def empty : ErrorPool := ⟨[], []⟩

/-- The numbers of the links of an error, outermost first, at most `fuel` of them. -/
def chainUpTo (pool : ErrorPool) : Nat → Nat → List Nat
  | 0, _ => []
  | fuel + 1, link => link :: match (pool.links[link]?).bind ErrorLink.cause with
    | none => []
    | some cause => chainUpTo pool fuel cause

/-- The numbers of the links of an error. Causes have smaller numbers, which bounds the length. -/
def chain (pool : ErrorPool) (link : Nat) : List Nat := pool.chainUpTo (link + 1) link

/-- The faults of an error, outermost first. -/
def faults (pool : ErrorPool) (link : Nat) : List Fault :=
  (pool.chain link).filterMap fun n => (pool.links[n]?).map ErrorLink.fault

/-- The error that starts with a link. -/
def toError (pool : ErrorPool) (link : Nat) : Error :=
  match pool.faults link with
  | [] => ⟨.note [], []⟩
  | fault :: rest => ⟨fault, rest⟩

/-- How often a link is held: by the stack, or by a link that the stack can reach. -/
def holders (pool : ErrorPool) (link : Nat) : Nat :=
  let reached := OrderedSet.ofList (pool.held.flatMap pool.chain)
  pool.held.count link +
    (reached.elems.filter fun n => (pool.links[n]?).bind ErrorLink.cause = some link).length

/-- The innermost link of an error. -/
def rootOf (pool : ErrorPool) (link : Nat) : Nat := (pool.chain link).getLast?.getD link

/-! ## Operations -/

/-- Holds a new link. -/
def hold (pool : ErrorPool) (link : ErrorLink) : ErrorPool :=
  ⟨pool.links ++ [link], pool.links.length :: pool.held⟩

/-- Holds a new error of a single fault. -/
def push (pool : ErrorPool) (fault : Fault) : ErrorPool := pool.hold ⟨fault, none⟩

/-- Holds the latest error once more. -/
def duplicate (pool : ErrorPool) : ErrorPool :=
  match pool.held with
  | [] => pool
  | top :: rest => { pool with held := top :: top :: rest }

/-- Exchanges the two latest errors. -/
def swap (pool : ErrorPool) : ErrorPool :=
  match pool.held with
  | a :: b :: rest => { pool with held := b :: a :: rest }
  | _ => pool

/-- Gives up the latest error for its root. -/
def takeRoot (pool : ErrorPool) : ErrorPool :=
  match pool.held with
  | [] => pool
  | top :: rest => { pool with held := pool.rootOf top :: rest }

/-- The fault that context becomes: its own if nobody else holds it and it has no cause, and
otherwise a remark with its words. -/
def contextFault (pool : ErrorPool) (context : Nat) : Fault :=
  match pool.links[context]? with
  | some ⟨fault, none⟩ =>
    if pool.holders context ≤ 1 then fault else .note (pool.toError context).display
  | _ => .note (pool.toError context).display

/-- Adds the latest error as context to the one before it, and holds the result instead of both. -/
def addContext (pool : ErrorPool) : ErrorPool :=
  match pool.held with
  | context :: error :: rest =>
    let fault := pool.contextFault context
    ErrorPool.hold { pool with held := rest } ⟨fault, some error⟩
  | _ => pool

end ErrorPool

end SchemaCompiler
