import ReactionLedger.Service.Listing

/-!
Adding and removing a reaction.  Adding twice stores one reaction, also when another session adds
the same one in between: the insertion then meets the stored reaction, the session is rolled back
and the stored reaction is the answer.
-/

set_option autoImplicit false

namespace ReactionLedger

namespace Key

def user (k : Key) : String := Failure.orNone k.author

def onComment (k : Key) : String := " on comment " ++ Service.idText k.comment

end Key

namespace Service

open Program

def rollbackQuietly : Program Unit :=
  (perform .rollback).handle fun e => record .warning ("Rollback failed: " ++ e.message)

/-- A failing store ends a write with a rollback; other failures pass. -/
def guarded {α : Type} (failed : String) (body : Program α) : Program α :=
  body.handle fun e => do
    if e.isStore then
      rollbackQuietly
      record .error (failed ++ ": " ++ e.message)
      fail (.access failed (some e))
    else fail e

inductive Added where
  | now (reaction : Reaction)
  | before (reaction : Reaction)

def Added.reaction : Added → Reaction
  | .now r | .before r => r

/-- Another reaction with the key was stored first, unless it is gone again. -/
def lostRace (key : Key) (conflict : StoreFault) : Program Added := do
  rollbackQuietly
  match ← perform (.findReaction key) with
  | none => fail (.store conflict)
  | some stored =>
    record .debug ("Concurrent " ++ key.label ++ " reaction by user " ++ key.user ++
      key.onComment ++ " already stored: " ++ conflict.detail)
    pure (.before stored)

def insertReaction (key : Key) : Program Added := do
  perform (.add key)
  let conflict? ← (do perform .flush; pure none : Program (Option StoreFault)).handle fun e =>
    match e with
    | .store (.integrity origin text) => pure (some (.integrity origin text))
    | e => fail e
  match conflict? with
  | some conflict => lostRace key conflict
  | none => return .now (← perform (.refresh key))

def storeReaction (key : Key) : Program Added := do
  if ← perform (.userKnown key.author) then
    match ← perform (.findReaction key) with
    | some stored =>
      record .debug ("User " ++ key.user ++ " already reacted " ++ key.label ++ key.onComment)
      pure (.before stored)
    | none => insertReaction key
  else fail (.unknownUser key.author)

def addReaction (view comment : Option Uuid) (label : String) (user : Option String) :
    Program Reaction := do
  let label ← .done ((Label.normalize label).mapError .label)
  let key : Key := ⟨view, comment, label, user⟩
  match ← guarded "Failed to add reaction" (storeReaction key) with
  | .before stored => pure stored
  | .now reaction =>
    record .info ("User " ++ key.user ++ " reacted " ++ key.label ++ key.onComment)
    pure reaction

def removeReaction (view comment : Option Uuid) (label : String) (user : Option String) :
    Program Bool := do
  let key : Key := ⟨view, comment, Text.trim label, user⟩
  let count ← guarded "Failed to remove reaction" (do
    let count ← perform (.deleteReaction key)
    perform .flush
    return count)
  if count = 0 then
    record .debug ("User " ++ key.user ++ " has no " ++ key.label ++ " reaction" ++ key.onComment)
    pure false
  else
    record .info ("User " ++ key.user ++ " removed " ++ key.label ++ " from comment " ++
      idText key.comment)
    pure true

end Service

end ReactionLedger
