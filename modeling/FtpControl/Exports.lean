import FtpControl.Failure

/-!
# Published names

The names under which the tool can be asked for its parts, and what stands behind each. A name
that stands for nothing is refused.
-/

namespace FtpControl.Exports

def version : String := "0.1.0"

/-- The published parts, in alphabetical order. -/
def names : List String :=
  ["ClientConfig", "ControlChannel", "DataConnectMode", "FtpError", "Reply"]

/-- Facts about the tool as a whole. -/
def facts : List (String × String) :=
  [("__class__", "module"), ("__doc__", "ftpctl - FTP control-channel client engine."),
    ("__name__", "ftpctl"), ("__package__", "ftpctl"), ("__version__", version)]

/-- The sections of the tool. They go by their full names. -/
def sections : List String :=
  ["config", "core", "entrypoint", "ui"]

/-- The operations that the tool as a whole answers to: looking up and listing names, and those
that all values have. -/
def hooks : List String :=
  ["delattr", "dir", "eq", "format", "ge", "getattr", "getattribute", "getstate", "gt", "hash",
    "init", "init_subclass", "le", "lt", "ne", "new", "reduce", "reduce_ex", "repr", "setattr",
    "sizeof", "str", "subclasshook"].map fun s => "__" ++ s ++ "__"

/-- What a name stands for. Parts and operations go by their own names. -/
def lookUp (name : String) : Except Failure String :=
  if name ∈ names ∨ name ∈ hooks then .ok name
  else if name ∈ sections then .ok s!"ftpctl.{name}"
  else match facts.lookup name with
    | some s => .ok s
    | none => .error (.unknownName name)

end FtpControl.Exports
