import SoundGrid.Level

/-!
# Settings

Every mapping level has parameters of its own, gathered in one record per
level.  A `Parameter` names one of them across all records; `get` and `put`
read and replace it.  The records are generic in the type of real numbers:
running grids use doubles, exact statements use rationals.
-/

namespace SoundGrid

/-- Level 0: a cell is on above the threshold. -/
structure DirectSettings (Real : Type) where
  threshold : Real
deriving DecidableEq

/-- Level 1: values are scaled by the gain when they are drawn. -/
structure OpacitySettings (Real : Type) where
  gain : Real
deriving DecidableEq

/-- Level 2: the value moves toward the sample by a part of the way. -/
structure SmoothedSettings (Real : Type) where
  smoothing : Real
  threshold : Real
deriving DecidableEq

/-- Level 3: a cell is on with a probability proportional to the sample. -/
structure ProbabilisticSettings (Real : Type) where
  scale : Real
deriving DecidableEq

/--
Level 4: a cell is on when a sample chosen at random is above the threshold.
-/
structure EntropySettings (Real : Type) where
  threshold : Real
deriving DecidableEq

/-- Level 5: the thresholds of the standard rules, the ripple, and the decay. -/
structure RuleSettings (Real : Type) where
  loudThreshold : Real
  quietThreshold : Real
  flipMin : Real
  flipMax : Real
  flipChance : Real
  rippleSpeed : Nat
  decayFactor : Real
  decayFloor : Real
deriving DecidableEq

/-- Level 6: thresholds gated by the number of live neighbours. -/
structure NeighborhoodSettings (Real : Type) where
  activeThreshold : Real
  inactiveThreshold : Real
  neighbourLimit : Real
deriving DecidableEq

/-- The parameters of all levels. -/
structure Settings (Real : Type) where
  direct : DirectSettings Real
  opacity : OpacitySettings Real
  smoothed : SmoothedSettings Real
  probabilistic : ProbabilisticSettings Real
  entropy : EntropySettings Real
  rules : RuleSettings Real
  neighborhood : NeighborhoodSettings Real
deriving DecidableEq

/-- The parameters by name. -/
inductive Parameter where
  | directThreshold
  | opacityGain
  | smoothing
  | smoothedThreshold
  | probabilityScale
  | entropyThreshold
  | loudThreshold
  | quietThreshold
  | flipMin
  | flipMax
  | flipChance
  | rippleSpeed
  | decayFactor
  | decayFloor
  | activeThreshold
  | inactiveThreshold
  | neighbourLimit
deriving DecidableEq

namespace Parameter

/-- The level that a parameter belongs to. -/
def level : Parameter → Level
  | directThreshold => .direct
  | opacityGain => .opacity
  | smoothing | smoothedThreshold => .smoothed
  | probabilityScale => .probabilistic
  | entropyThreshold => .entropy
  | loudThreshold | quietThreshold | flipMin | flipMax | flipChance => .rules
  | rippleSpeed | decayFactor | decayFloor => .rules
  | activeThreshold | inactiveThreshold | neighbourLimit => .neighborhood

/-- The name of a parameter within its level. -/
def name : Parameter → String
  | directThreshold | smoothedThreshold | entropyThreshold => "threshold"
  | opacityGain => "opacity_gain"
  | smoothing => "smoothing"
  | probabilityScale => "probability_scale"
  | loudThreshold => "loud_threshold"
  | quietThreshold => "quiet_threshold"
  | flipMin => "flip_min"
  | flipMax => "flip_max"
  | flipChance => "flip_chance"
  | rippleSpeed => "ripple_speed"
  | decayFactor => "decay_factor"
  | decayFloor => "decay_floor"
  | activeThreshold => "active_threshold"
  | inactiveThreshold => "inactive_threshold"
  | neighbourLimit => "neighbor_limit"

/--
The type of a parameter's value: the ripple speed counts samples, the rest are
reals.
-/
abbrev Value (Real : Type) : Parameter → Type
  | rippleSpeed => Nat
  | _ => Real

end Parameter

namespace Level

/-- The parameters of a level, in the order in which they are listed. -/
def parameters : Level → List Parameter
  | direct => [.directThreshold]
  | opacity => [.opacityGain]
  | smoothed => [.smoothing, .smoothedThreshold]
  | probabilistic => [.probabilityScale]
  | entropy => [.entropyThreshold]
  | rules =>
      [.loudThreshold, .quietThreshold, .flipMin, .flipMax, .flipChance,
        .rippleSpeed, .decayFactor, .decayFloor]
  | neighborhood => [.activeThreshold, .inactiveThreshold, .neighbourLimit]

/-- The parameter of a level with a name. -/
def parameter? (level : Level) (name : String) : Option Parameter :=
  level.parameters.find? fun parameter => parameter.name == name

end Level

theorem Parameter.mem_parameters (parameter : Parameter) :
    parameter ∈ parameter.level.parameters := by
  cases parameter <;> decide

namespace Settings

variable {Real : Type}

/-- The value of a parameter. -/
def get (settings : Settings Real) :
    (parameter : Parameter) → parameter.Value Real
  | .directThreshold => settings.direct.threshold
  | .opacityGain => settings.opacity.gain
  | .smoothing => settings.smoothed.smoothing
  | .smoothedThreshold => settings.smoothed.threshold
  | .probabilityScale => settings.probabilistic.scale
  | .entropyThreshold => settings.entropy.threshold
  | .loudThreshold => settings.rules.loudThreshold
  | .quietThreshold => settings.rules.quietThreshold
  | .flipMin => settings.rules.flipMin
  | .flipMax => settings.rules.flipMax
  | .flipChance => settings.rules.flipChance
  | .rippleSpeed => settings.rules.rippleSpeed
  | .decayFactor => settings.rules.decayFactor
  | .decayFloor => settings.rules.decayFloor
  | .activeThreshold => settings.neighborhood.activeThreshold
  | .inactiveThreshold => settings.neighborhood.inactiveThreshold
  | .neighbourLimit => settings.neighborhood.neighbourLimit

/-- The settings with another value for one parameter. -/
def put (settings : Settings Real) :
    (parameter : Parameter) → parameter.Value Real → Settings Real
  | .directThreshold, value => { settings with direct.threshold := value }
  | .opacityGain, value => { settings with opacity.gain := value }
  | .smoothing, value => { settings with smoothed.smoothing := value }
  | .smoothedThreshold, value => { settings with smoothed.threshold := value }
  | .probabilityScale, value => { settings with probabilistic.scale := value }
  | .entropyThreshold, value => { settings with entropy.threshold := value }
  | .loudThreshold, value => { settings with rules.loudThreshold := value }
  | .quietThreshold, value => { settings with rules.quietThreshold := value }
  | .flipMin, value => { settings with rules.flipMin := value }
  | .flipMax, value => { settings with rules.flipMax := value }
  | .flipChance, value => { settings with rules.flipChance := value }
  | .rippleSpeed, value => { settings with rules.rippleSpeed := value }
  | .decayFactor, value => { settings with rules.decayFactor := value }
  | .decayFloor, value => { settings with rules.decayFloor := value }
  | .activeThreshold, value =>
      { settings with neighborhood.activeThreshold := value }
  | .inactiveThreshold, value =>
      { settings with neighborhood.inactiveThreshold := value }
  | .neighbourLimit, value =>
      { settings with neighborhood.neighbourLimit := value }

@[simp]
theorem get_put_same (settings : Settings Real) (parameter : Parameter)
    (value : parameter.Value Real) :
    (settings.put parameter value).get parameter = value := by
  cases parameter <;> rfl

theorem get_put_of_ne (settings : Settings Real) {parameter other : Parameter}
    (value : parameter.Value Real) (different : other ≠ parameter) :
    (settings.put parameter value).get other = settings.get other := by
  cases parameter <;> cases other <;> first | rfl | exact absurd rfl different

@[simp]
theorem put_get (settings : Settings Real) (parameter : Parameter) :
    settings.put parameter (settings.get parameter) = settings := by
  cases parameter <;> rfl

end Settings

end SoundGrid
