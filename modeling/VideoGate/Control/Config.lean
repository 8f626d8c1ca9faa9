import VideoGate.Camera.Mode
import VideoGate.System.Registry

/-!
# Configuring the pipeline

A configuration gives some of the settings and leaves the others as they are.  It comes down to
writes of single words, which are made map by map: the switches of the stages first, then the
interfaces, then the global mode.
-/

namespace VideoGate

/-- The settings to be changed. -/
structure Config where
  stage1 : Option Bool := none
  stage2 : Option Bool := none
  peer : Option UInt32 := none
  bridge : Option Bool := none
  output : Option UInt32 := none
  globalMode : Option FilterMode := none
deriving DecidableEq, Repr

structure SlotWrite where
  map : MapName
  index : Nat
  value : UInt32
deriving DecidableEq, Repr

namespace Config

def isEmpty (config : Config) : Bool := config == {}

def settingWrite (setting : Setting) (value : Option UInt32) : List SlotWrite :=
  match value with
  | none => []
  | some value => [{ map := setting.map, index := setting.index, value }]

def modeWrite (mode : Option FilterMode) : List SlotWrite :=
  match mode with
  | none => []
  | some mode => [{ map := .globalMode, index := 0, value := mode.toRaw }]

def writes (config : Config) : List SlotWrite :=
  settingWrite .stage1 (config.stage1.map Setting.ofSwitch) ++
    settingWrite .stage2 (config.stage2.map Setting.ofSwitch) ++
    settingWrite .peer config.peer ++
    settingWrite .bridge (config.bridge.map Setting.ofSwitch) ++
    settingWrite .output config.output ++
    modeWrite config.globalMode

def maps : List MapName := [.control, .interfaces, .globalMode]

def writesTo (config : Config) (map : MapName) : List SlotWrite :=
  config.writes.filter (·.map == map)

/-- The writes in the order in which they are made. -/
def orderedWrites (config : Config) : List SlotWrite := maps.flatMap config.writesTo

def applyWrites (map : OpenMap) : List SlotWrite → Operation Unit
  | [] => pure ()
  | write :: writes => do
    Operation.writeWord map write.index write.value (.cannotWriteSlot write.map write.index)
    Operation.log .debug .control
      (write.map.pin ++ "[" ++ Numeral.text write.index ++ "] = " ++
        Numeral.text write.value.toNat)
    applyWrites map writes

/-- Makes the writes to one map, which is not opened if there are none. -/
def applyTo (config : Config) (registry : Registry) (map : MapName) : Operation Unit := do
  let writes := config.writesTo map
  unless writes.isEmpty do
    applyWrites (← registry.openWords map.pin) writes
    Operation.log .info .control ("  ✓ Updated " ++ map.pin)

def apply (config : Config) (registry : Registry) : Operation Unit :=
  maps.forM (config.applyTo registry)

end Config

end VideoGate
