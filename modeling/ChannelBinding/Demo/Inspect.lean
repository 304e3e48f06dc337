import ChannelBinding.Settings

/-!
# Errors in full

How the demo shows the error that ended it: the name of its kind with everything it holds, texts in
quotes.
-/

namespace ChannelBinding

open Text

/-- A binder error in full. -/
def BinderError.inspect : BinderError → String
  | .unavailable reason => s!"Unavailable({quote reason})"
  | .invalidArgument reason => s!"InvalidArgument({quote reason})"
  | .internal reason => s!"Internal({quote reason})"

/-- A binding error in full. -/
def BindingError.inspect : BindingError → String
  | .binderNotFound wanted => s!"BinderNotFound({quote wanted})"
  | .invalidProperties reason => s!"InvalidProperties({quote reason})"
  | .binder cause => s!"Binder({cause.inspect})"
  | .notBound name => s!"NotBound({quote name})"

/-- A resolution error in full. -/
def ResolutionError.inspect : ResolutionError → String
  | .invalidDestination name => s!"InvalidDestination({quote name})"
  | .notAllowed name => s!"DestinationNotAllowed({quote name})"
  | .bindingFailed destination cause =>
    "BindingFailed \x7b destination: " ++ quote destination ++ ", source: " ++ cause.inspect ++
      " \x7d"

/-- A file error in full. -/
def FileError.inspect : FileError → String
  | .missing =>
    "Os \x7b code: 2, kind: NotFound, message: \"No such file or directory\" \x7d"
  | .notText =>
    "Error \x7b kind: InvalidData, message: \"stream did not contain valid UTF-8\" \x7d"
  | .other reason => "Custom \x7b kind: Other, error: " ++ quote reason ++ " \x7d"

/-- A configuration error in full. -/
def ConfigError.inspect : ConfigError → String
  | .io cause => s!"Io({cause.inspect})"
  | .parse reason => s!"Parse({quote reason})"
  | .invalid binding reason =>
    "Invalid \x7b binding: " ++ quote binding ++ ", reason: " ++ quote reason ++ " \x7d"

end ChannelBinding
