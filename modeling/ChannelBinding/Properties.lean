import ChannelBinding.Failure
import ChannelBinding.Text.Blank
import ChannelBinding.Value

/-!
# Consumer and producer properties

The settings that a binder is handed with a bind, their defaults and their rules.  The rules are
checked in a fixed order, and the first one that is broken is reported.
-/

namespace ChannelBinding

/-- The settings of a consumer bind. -/
structure ConsumerProperties where
  concurrency : UInt32 := 1
  partitioned : Bool := false
  maxAttempts : UInt32 := 3
  backOffInitialIntervalMs : UInt64 := 1000
  backOffMaxIntervalMs : UInt64 := 10000
  backOffMultiplier : Float := 2.0
  useNativeDecoding : Bool := false
  extension : Extension := ∅
deriving Repr, Inhabited

/-- A rule of consumer properties that is broken. -/
inductive ConsumerFault where
  | noConcurrency
  | noAttempts
  | intervalsReversed
  | shrinkingBackOff
deriving DecidableEq, Repr

/-- The wording of a consumer fault. -/
def ConsumerFault.message : ConsumerFault → String
  | .noConcurrency => "consumer concurrency must be at least 1"
  | .noAttempts => "consumer max_attempts must be at least 1"
  | .intervalsReversed => "consumer back_off_initial_interval_ms exceeds back_off_max_interval_ms"
  | .shrinkingBackOff => "consumer back_off_multiplier must be at least 1.0"

/-- Whether a rule is broken. -/
def ConsumerProperties.breaks (p : ConsumerProperties) : ConsumerFault → Bool
  | .noConcurrency => p.concurrency < 1
  | .noAttempts => p.maxAttempts < 1
  | .intervalsReversed => p.backOffInitialIntervalMs > p.backOffMaxIntervalMs
  | .shrinkingBackOff => p.backOffMultiplier.isNaN || p.backOffMultiplier < 1.0

/-- The rules of consumer properties, in the order in which they are checked. -/
def ConsumerFault.all : List ConsumerFault :=
  [.noConcurrency, .noAttempts, .intervalsReversed, .shrinkingBackOff]

/-- The first rule that is broken. -/
def ConsumerProperties.fault? (p : ConsumerProperties) : Option ConsumerFault :=
  ConsumerFault.all.find? p.breaks

/-- Accepts properties that break no rule. -/
def ConsumerProperties.validate (p : ConsumerProperties) : Except BinderError Unit :=
  match p.fault? with
  | none => .ok ()
  | some fault => .error (.invalidArgument fault.message)

/-- The properties with each missing extension key taken from `defaults`. -/
def ConsumerProperties.withExtensionDefaults (p : ConsumerProperties) (defaults : Extension) :
    ConsumerProperties :=
  { p with extension := p.extension.withDefaults defaults }

/-- The settings of a producer bind. -/
structure ProducerProperties where
  partitionCount : UInt32 := 1
  requiredGroups : List String := []
  useNativeEncoding : Bool := false
  errorChannelEnabled : Bool := false
  extension : Extension := ∅
deriving Repr, Inhabited

/-- A rule of producer properties that is broken. -/
inductive ProducerFault where
  | noPartitions
  | blankGroup
deriving DecidableEq, Repr

/-- The wording of a producer fault. -/
def ProducerFault.message : ProducerFault → String
  | .noPartitions => "producer partition_count must be at least 1"
  | .blankGroup => "producer required_groups must not contain blank names"

/-- Whether a rule is broken. -/
def ProducerProperties.breaks (p : ProducerProperties) : ProducerFault → Bool
  | .noPartitions => p.partitionCount < 1
  | .blankGroup => p.requiredGroups.any Text.isBlankText

/-- The rules of producer properties, in the order in which they are checked. -/
def ProducerFault.all : List ProducerFault := [.noPartitions, .blankGroup]

/-- The first rule that is broken. -/
def ProducerProperties.fault? (p : ProducerProperties) : Option ProducerFault :=
  ProducerFault.all.find? p.breaks

/-- Accepts properties that break no rule. -/
def ProducerProperties.validate (p : ProducerProperties) : Except BinderError Unit :=
  match p.fault? with
  | none => .ok ()
  | some fault => .error (.invalidArgument fault.message)

/-- Whether a producer writes to more than one partition. -/
def ProducerProperties.isPartitioned (p : ProducerProperties) : Bool := p.partitionCount > 1

/-- The properties with each missing extension key taken from `defaults`. -/
def ProducerProperties.withExtensionDefaults (p : ProducerProperties) (defaults : Extension) :
    ProducerProperties :=
  { p with extension := p.extension.withDefaults defaults }

end ChannelBinding
