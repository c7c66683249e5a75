/-!
Tracing log records back to requests. A filter on the handlers of a log stamps every record with
the identifiers of the request in whose course it was written.
-/

namespace Outreach

/-- The identifiers of a request; empty ones are unknown. -/
structure Trace where
  correlation : String := ""
  request : String := ""
deriving DecidableEq, Repr, Inhabited

namespace Trace

/-- The word for an identifier that is not known. -/
def unknown : String := "unknown"

def orUnknown (identifier : String) : String :=
  if identifier.isEmpty then unknown else identifier

end Trace

/-- The identifiers on a log record. -/
structure LogRecord where
  correlation : Option String := none
  request : Option String := none
deriving DecidableEq, Repr, Inhabited

/-- A filter that stamps records. -/
inductive LogFilter where
  | stamp
deriving DecidableEq, Repr

def LogFilter.apply (trace : Trace) : LogFilter → LogRecord → LogRecord
  | stamp, _ => ⟨some (Trace.orUnknown trace.correlation), some (Trace.orUnknown trace.request)⟩

/-- A place where log records go, with its filters. -/
structure LogHandler where
  filters : List LogFilter := []
deriving DecidableEq, Repr, Inhabited

namespace LogHandler

/-- Adds the stamping filter, unless it is there. -/
def install (handler : LogHandler) : LogHandler :=
  if LogFilter.stamp ∈ handler.filters then handler
  else { filters := handler.filters ++ [.stamp] }

theorem install_install (handler : LogHandler) : handler.install.install = handler.install := by
  simp only [install]
  split <;> simp [*]

/-- A record after the filters of a handler. -/
def stamped (trace : Trace) (handler : LogHandler) (record : LogRecord) : LogRecord :=
  handler.filters.foldl (fun record filter => filter.apply trace record) record

end LogHandler

/-- The handlers of a log on which filters were installed so many times. -/
def installed (times : Nat) (handlers : List LogHandler) : List LogHandler :=
  times.repeat (List.map LogHandler.install) handlers

/-- A record after all handlers of a log. -/
def stampedByAll (trace : Trace) (handlers : List LogHandler) (record : LogRecord) : LogRecord :=
  handlers.foldl (fun record handler => handler.stamped trace record) record

end Outreach
