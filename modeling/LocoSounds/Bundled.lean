import LocoSounds.FileTree
import LocoSounds.Text.Lines

/-! The configuration that comes with the program. -/

namespace LocoSounds.Bundled

/-- The sounds of the bundled configuration. -/
def soundLines : List String :=
  ["sounds:",
    "  leslie_horn:",
    "    type: HornHit",
    "    filename: horns/leslie_a200.ogg",
    "  nathan_horn:",
    "    type: HornHit",
    "    filename: horns/nathan_k5la.ogg",
    "    pitch: 0.95",
    "  nathan_horn_loop:",
    "    type: HornLoop",
    "    filename: horns/nathan_k5la_loop.ogg",
    "  shunter_bell:",
    "    type: Bell",
    "    filenames:",
    "      - bells/shunter_bell_1.ogg",
    "      - bells/shunter_bell_2.ogg",
    "  emd_startup:",
    "    type: EngineStartup",
    "    filename: engines/emd645_startup.ogg",
    "  emd_idle:",
    "    type: EngineLoop",
    "    filename: engines/emd645_loop.ogg",
    "    pitch: 1.0",
    "    minPitch: 0.478",
    "    maxPitch: 1.435",
    "  emd_shutdown:",
    "    type: EngineShutdown",
    "    filename: engines/emd645_shutdown.ogg",
    "  alco_idle:",
    "    type: EngineLoop",
    "    filename: engines/alco251_loop.ogg",
    "    minPitch: 0.5",
    "    maxPitch: 1.4",
    "    fadeStart: 0.2",
    "    fadeWidth: 0.1"]

/-- The rules of the bundled configuration, of which `root` is applied to every car. -/
def ruleLines : List String :=
  ["rules:",
    "  root:",
    "    type: AllOf",
    "    rules:",
    "      - type: If",
    "        property: CarType",
    "        value: DE6",
    "        rule: de6",
    "      - type: If",
    "        property: CarType",
    "        value: DE2",
    "        rule: de2",
    "  de6:",
    "    type: AllOf",
    "    rules:",
    "      - type: OneOf",
    "        rules:",
    "          - type: Sound",
    "            name: nathan_horn",
    "          - type: Sound",
    "            name: leslie_horn",
    "        weights: [3, 1]",
    "      - engine_emd",
    "    sounds:",
    "      - nathan_horn_loop",
    "  de2:",
    "    type: AllOf",
    "    rules:",
    "      - type: OneOf",
    "        rules: [engine_emd, engine_alco]",
    "    sounds:",
    "      - shunter_bell",
    "  engine_emd:",
    "    type: AllOf",
    "    sounds: [emd_startup, emd_idle, emd_shutdown]",
    "  engine_alco:",
    "    type: AllOf",
    "    sounds: [emd_startup, alco_idle, emd_shutdown]"]

/-- The text of the bundled configuration. -/
def text : String := unlines (soundLines ++ ruleLines)

/-- Where the bundled configuration is. -/
def path : FilePath := .ofText "sounds"

/-- The files that come with the program. -/
def tree : FileTree :=
  .directory [("sounds", .directory [("default.yaml", .file text.toUTF8)])]

end LocoSounds.Bundled
