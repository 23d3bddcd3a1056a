import SchemaCompiler.Text.Basic

/-!
# Tokens and mappings

Definition files name the tables and functions of a queue through six tokens, written `$token$`. A
mapping gives each token a value; a token it does not assign keeps its default.

Main definitions:

* `Token`: the six tokens, with their names, defaults and placeholders;
* `Mapping`: which tokens are assigned, and what to;
* `Mapping.expand`: a text with every placeholder replaced by its value.
-/

namespace SchemaCompiler

/-- A symbol that definition files may reference. -/
inductive Token where
  | queueTable
  | resultsTable
  | timeStatsTable
  | metricsTable
  | notificationChannel
  | dequeueFunction
  deriving DecidableEq, Repr

namespace Token

/-- Every token, in the order in which expansion applies them. -/
def all : List Token :=
  [.queueTable, .resultsTable, .timeStatsTable, .metricsTable, .notificationChannel,
   .dequeueFunction]

/-- The name by which mapping files and templates know the token. -/
def name : Token → Text
  | queueTable => "queue_table_name"
  | resultsTable => "results_queue_table_name"
  | timeStatsTable => "execution_time_stats_table_name"
  | metricsTable => "metrics_table_name"
  | notificationChannel => "new_task_notification_channel_name"
  | dequeueFunction => "dequeue_function_name"

/-- The value of a token that no mapping assigns. -/
def defaultValue : Token → Text
  | queueTable => "sk_tasks_queue_t"
  | resultsTable => "sk_task_results_t"
  | timeStatsTable => "sk_task_execution_time_stats_t"
  | metricsTable => "sk_metrics_t"
  | notificationChannel => "sk_task_queue_item_added"
  | dequeueFunction => "sk_try_dequeue_task"

/-- The token of a name. -/
def ofName? (name : Text) : Option Token := all.find? fun token => token.name = name

/-- The token as it stands in a definition, its name between dollar signs. -/
def placeholder (token : Token) : Text := '$' :: token.name ++ ['$']

end Token

/-- The values assigned to tokens. -/
structure Mapping where
  /-- The value assigned to a token, if one is. -/
  assigned : Token → Option Text

namespace Mapping

/-- The mapping that assigns nothing, so that every token has its default. -/
def default : Mapping := ⟨fun _ => none⟩

instance : Inhabited Mapping := ⟨default⟩

/-- Assigns a value to a token. -/
def assign (mapping : Mapping) (token : Token) (value : Text) : Mapping :=
  ⟨fun t => if t = token then some value else mapping.assigned t⟩

/-- The value of a token, assigned or default. -/
def value (mapping : Mapping) (token : Token) : Text :=
  (mapping.assigned token).getD token.defaultValue

/-- The token is assigned rather than left at its default. -/
def isAssigned (mapping : Mapping) (token : Token) : Bool := (mapping.assigned token).isSome

/-- Replaces one token after another, in the order of `Token.all`; the value of a token is searched
for the placeholders of the tokens behind it, and any other text between dollar signs stays. -/
def expand (mapping : Mapping) (t : Text) : Text :=
  Token.all.foldl (fun acc token => acc.replaceAll token.placeholder (mapping.value token)) t

end Mapping

end SchemaCompiler
