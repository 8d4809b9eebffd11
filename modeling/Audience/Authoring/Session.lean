import Audience.Authoring.Edit
import Audience.Journal

/-!
**Authoring sessions**: a working copy of a rule tree, edited step by step.

Every edit that is made is shown to the observers of the session, in the order in which they have
subscribed; an edit whose target is not found changes nothing and is shown to nobody.

Main definitions:

* `Authoring.Session`, `Authoring.Session.subscribe` — a working copy with its observers;
* `Authoring.Operation`, `Authoring.Answer` — what can be done, and what comes of it;
* `Authoring.Session.perform` — one step of a session, with its `Authoring.Report`.
-/

set_option relaxedAutoImplicit false
set_option autoImplicit false

namespace Audience.Authoring

/-- A **working copy** of a rule tree.  Observers are known by numbers. -/
structure Session where
  /-- The catalog that conditions are made for. -/
  catalog : Catalog := .customers
  /-- The tree. -/
  tree : Group := .root .and
  /-- The observers, in the order in which they have subscribed. -/
  observers : List Nat := []
  deriving DecidableEq, Repr, Inhabited

/-- What can be **done** in a session. -/
inductive Operation where
  | addCondition (group : String)
  | addGroup (group : String)
  | remove (group node : String)
  | update (group condition : String) (patch : Patch)
  | setLogic (group : String) (logic : Logic)
  deriving DecidableEq, Repr

/-- The name of an operation in the log. -/
def Operation.name : Operation → String
  | addCondition _ => "add_condition"
  | addGroup _ => "add_group"
  | remove .. => "remove_node"
  | update .. => "update_condition"
  | setLogic .. => "set_group_logic"

/-- What **comes of an operation**. -/
inductive Answer where
  | added (id : Option String)
  | made (success : Bool)
  deriving DecidableEq, Repr

/-- Has the operation changed the tree? -/
def Answer.success : Answer → Bool
  | added id => id.isSome
  | made success => success

/-- The **report** of a step: what came of it, who was shown which tree, and what the log says. -/
structure Report where
  /-- What came of the operation. -/
  answer : Answer
  /-- The trees shown to observers, in the order of showing. -/
  notices : List (Nat × Group)
  /-- The entries of the log. -/
  log : List LogEntry
  deriving DecidableEq, Repr

/-- What the log says of an operator that was refused. -/
def Refusal.entry (refusal : Refusal) : LogEntry :=
  { level := .warn
    message := "operator not allowed for field, update ignored"
    fields :=
      [("condition_id", .string refusal.condition), ("field", .string refusal.field),
       ("operator", .string refusal.operator.identifier)] }

namespace Session

/-- One more observer. -/
def subscribe (session : Session) (observer : Nat) : Session :=
  { session with observers := session.observers ++ [observer] }

/-- The tree that an operation leads to, if its target is found, with the answer and the log
entries that come before the end of the step; `offered` are the identifiers for new nodes. -/
def attempt (session : Session) (offered : List String) :
    Operation → Option Group × Answer × List LogEntry
  | .addCondition group =>
    let added := addCondition? session.catalog offered group session.tree
    (added.map (·.1), .added (added.map (·.2)), [])
  | .addGroup group =>
    let added := addGroup? offered group session.tree
    (added.map (·.1), .added (added.map (·.2)), [])
  | .remove group node =>
    let next := remove? group node session.tree
    (next, .made next.isSome, [])
  | .update group condition patch =>
    match Authoring.update session.catalog group condition patch session.tree with
    | .updated tree => (some tree, .made true, [])
    | .notFound => (none, .made false, [])
    | .refused refusal => (none, .made false, [refusal.entry])
  | .setLogic group logic =>
    let next := setLogic? group logic session.tree
    (next, .made next.isSome, [])

/-- **One step** of a session. -/
def perform (session : Session) (offered : List String) (operation : Operation) :
    Session × Report :=
  match session.attempt offered operation with
  | (some tree, answer, log) =>
    ({ session with tree := tree },
      ⟨answer, session.observers.map fun observer => (observer, tree), log⟩)
  | (none, answer, log) =>
    (session,
      ⟨answer, [],
        log ++ [{
          level := .debug
          message := "authoring target not found, tree unchanged"
          fields := [("op", .string operation.name)] }]⟩)

end Session

end Audience.Authoring
