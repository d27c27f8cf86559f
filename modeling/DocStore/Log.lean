import DocStore.Text.Case

namespace DocStore

inductive LogLevel where
  | off
  | error
  | warn
  | info
  | debug
  | trace
  deriving DecidableEq

namespace LogLevel

def name : LogLevel → String
  | off => "OFF"
  | error => "ERROR"
  | warn => "WARN"
  | info => "INFO"
  | debug => "DEBUG"
  | trace => "TRACE"

-- A level by its name, in any case; all other texts ask for the usual one.
def ofText (s : String) : LogLevel :=
  match Text.asciiLowercase s with
  | "off" => off
  | "error" => error
  | "warn" => warn
  | "debug" => debug
  | "trace" => trace
  | _ => info

end LogLevel

-- A file that is set aside under a number when it has grown to `limit` bytes.
structure LogAppender where
  name : String
  stem : String
  limit : Nat := 10 * 1024 * 1024
  -- How many of the files set aside are kept.
  kept : Nat
  deriving DecidableEq

namespace LogAppender

def file (a : LogAppender) : String := a.stem ++ ".log"

def rolledFile (a : LogAppender) (number : Nat) : String := a.stem ++ "." ++ toString number ++ ".log"

end LogAppender

structure Logger where
  target : String
  level : LogLevel
  -- Whether its messages go to the root as well.
  isAdditive : Bool
  appenders : List String
  deriving DecidableEq

structure LogPlan where
  level : LogLevel
  root : List String
  appenders : List LogAppender
  loggers : List Logger
  deriving DecidableEq

namespace LogPlan

def developerTarget : String := "flexdoc::dev"

def build (level : Option String) (retention : Option Nat) (dev : Bool) : LogPlan :=
  let kept := min (retention.getD 7) 0xffffffff
  let app : LogAppender := { name := "app", stem := "flexdoc", kept }
  let developer : LogAppender := { name := "dev", stem := "flexdoc-dev", kept }
  { level := LogLevel.ofText (level.getD "info")
    root := [app.name]
    appenders := if dev then [app, developer] else [app]
    loggers :=
      if dev then [⟨developerTarget, .trace, false, [developer.name]⟩]
      else [⟨developerTarget, .off, false, []⟩] }

-- The files that are there once logging starts.
def files (plan : LogPlan) : List String := plan.appenders.map (·.file)

end LogPlan

end DocStore
