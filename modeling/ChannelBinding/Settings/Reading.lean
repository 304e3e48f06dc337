import ChannelBinding.Document.Reading
import ChannelBinding.Document.Report
import ChannelBinding.Settings

/-!
# Reading settings

The fields of consumer properties, producer properties and settings in a document, and the reading of
settings from texts and files.  Settings that are read from a text are valid.
-/

namespace ChannelBinding

open Document

/-- The fields of consumer properties. -/
def ConsumerProperties.fields (d : Dialect) : List (FieldReader ConsumerProperties) := [
  { name := "concurrency"
    read p doc := (fun x => { p with concurrency := x }) <$> readUInt32 d doc },
  { name := "partitioned"
    read p doc := (fun x => { p with partitioned := x }) <$> readBool d doc },
  { name := "max_attempts"
    read p doc := (fun x => { p with maxAttempts := x }) <$> readUInt32 d doc },
  { name := "back_off_initial_interval_ms"
    read p doc := (fun x => { p with backOffInitialIntervalMs := x }) <$> readUInt64 d doc },
  { name := "back_off_max_interval_ms"
    read p doc := (fun x => { p with backOffMaxIntervalMs := x }) <$> readUInt64 d doc },
  { name := "back_off_multiplier"
    read p doc := (fun x => { p with backOffMultiplier := x }) <$> readFloat d doc },
  { name := "use_native_decoding"
    read p doc := (fun x => { p with useNativeDecoding := x }) <$> readBool d doc },
  { name := "extension"
    read p doc := (fun x => { p with extension := x }) <$> readExtension d doc }]

/-- Reads consumer properties; a field that is missing has its default. -/
def ConsumerProperties.read (d : Dialect) : Document → Read ConsumerProperties :=
  readRecord d "ConsumerProperties" (fields d) {}

/-- The fields of producer properties. -/
def ProducerProperties.fields (d : Dialect) : List (FieldReader ProducerProperties) := [
  { name := "partition_count"
    read p doc := (fun x => { p with partitionCount := x }) <$> readUInt32 d doc },
  { name := "required_groups"
    read p doc := (fun x => { p with requiredGroups := x }) <$> readList d (readText d) doc },
  { name := "use_native_encoding"
    read p doc := (fun x => { p with useNativeEncoding := x }) <$> readBool d doc },
  { name := "error_channel_enabled"
    read p doc := (fun x => { p with errorChannelEnabled := x }) <$> readBool d doc },
  { name := "extension"
    read p doc := (fun x => { p with extension := x }) <$> readExtension d doc }]

/-- Reads producer properties; a field that is missing has its default. -/
def ProducerProperties.read (d : Dialect) : Document → Read ProducerProperties :=
  readRecord d "ProducerProperties" (fields d) {}

/-- The fields of the settings of a binding name. -/
def BindingProperties.fields (d : Dialect) : List (FieldReader BindingProperties) := [
  { name := "destination"
    read p doc := (fun x => { p with destination := x }) <$> readOption (readText d) doc },
  { name := "group"
    read p doc := (fun x => { p with group := x }) <$> readOption (readText d) doc },
  { name := "content_type"
    read p doc := (fun x => { p with contentType := x }) <$> readOption (readText d) doc },
  { name := "binder"
    read p doc := (fun x => { p with binder := x }) <$> readOption (readText d) doc },
  { name := "consumer"
    read p doc :=
      (fun x => { p with consumer := x }) <$> readOption (ConsumerProperties.read d) doc },
  { name := "producer"
    read p doc :=
      (fun x => { p with producer := x }) <$> readOption (ProducerProperties.read d) doc }]

/-- Reads the settings of a binding name. -/
def BindingProperties.read (d : Dialect) : Document → Read BindingProperties :=
  readRecord d "BindingProperties" (fields d) {}

namespace Settings

/-- The fields of settings. -/
def fields (d : Dialect) : List (FieldReader Settings) := [
  { name := "default_binder"
    read s doc := (fun x => { s with defaultBinder := x }) <$> readOption (readText d) doc },
  { name := "dynamic_destinations"
    read s doc := (fun x => { s with dynamicDestinations := x }) <$> readList d (readText d) doc },
  { name := "bindings"
    read s doc :=
      (fun x => { s with bindings := x }) <$> readTable d (BindingProperties.read d) doc }]

/-- Reads settings. -/
def read (d : Dialect) : Document → Read Settings :=
  readRecord d "BindingServiceProperties" (fields d) {}

end Settings

/-- Reads something from a configuration text. -/
def Document.readFromText (read : Document → Read α) (text : String) : Except ConfigError α :=
  match Document.ofText text with
  | .error e => .error (.parse (e.draw text))
  | .ok doc =>
    match read doc with
    | .error e => .error (.parse e.message)
    | .ok a => .ok a

/-- Reads something from a value. -/
def Document.readFromValue (read : Document → Read α) (v : Value) : Except ConfigError α :=
  match read (Document.ofValue v) with
  | .error e => .error (.parse e.message)
  | .ok a => .ok a

namespace Settings

/-- Reads settings from a text and checks them. -/
def ofText (text : String) : Except ConfigError Settings := do
  let s ← Document.readFromText (read .written) text
  s.validate
  return s

/-- Reads settings from a value, without checking them. -/
def ofValue (v : Value) : Except ConfigError Settings :=
  Document.readFromValue (read .ofValues) v

end Settings

/-! ## Files -/

/-- What there is at a path: nothing, or a file of some bytes. -/
abbrev FileContents := Option (List UInt8)

/-- The text of a file. -/
def FileContents.text (file : FileContents) : Except ConfigError String :=
  match file with
  | none => .error (.io .missing)
  | some bytes =>
    match String.fromUTF8? ⟨bytes.toArray⟩ with
    | none => .error (.io .notText)
    | some text => .ok text

/-- Reads settings from a file and checks them. -/
def Settings.ofFile (file : FileContents) : Except ConfigError Settings := do
  let text ← file.text
  Settings.ofText text

end ChannelBinding
