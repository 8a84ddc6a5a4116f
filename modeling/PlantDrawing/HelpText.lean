import PlantDrawing.Arguments

/-!
# Help

The usage of the program and of each command, and the text shown on request, as they are
laid out on lines of 80 characters.
-/

namespace PlantDrawing.HelpText

/-- The name of the program, and of the command if there is one. -/
def program : Option CommandName → String
  | none => "lsystem-plants"
  | some command => "lsystem-plants " ++ command.word

/-- The usage of the options that render and validate share, each line after the first
    behind an indent. -/
def settingsUsage (indent : String) : String :=
  "[-h] [-n ITERATIONS]\n" ++
    indent ++ "[--preset \x7bdefault,fine,tapered\x7d] [--step STEP]\n" ++
    indent ++ "[--scale SCALE] [--stroke-width STROKE_WIDTH]\n"

/-- What can stand behind the name of the program. -/
def parts : Option CommandName → String
  | none => "[-h] \x7blist,render,validate,random\x7d ..."
  | some .list => "[-h]"
  | some .render =>
    let indent := "                             "
    settingsUsage indent ++ indent ++ "[--options OPTIONS]\n" ++ indent ++ "grammar output"
  | some .validate =>
    let indent := "                               "
    settingsUsage indent ++ indent ++ "grammar"
  | some .random => "[-h] [--seed SEED] [--options OPTIONS] output"

/-- The usage, on one line or more. -/
def usage (command : Option CommandName) : String :=
  "usage: " ++ program command ++ " " ++ parts command

/-- The options that render and validate share. -/
def settingsOptions : String :=
"  -h, --help            show this help message and exit
  -n ITERATIONS, --iterations ITERATIONS
                        Rewriting steps (default: the grammar's
                        max_iterations).
  --preset \x7bdefault,fine,tapered\x7d
                        Named render settings.
  --step STEP           Base step length.
  --scale SCALE         Step length factor per branch.
  --stroke-width STROKE_WIDTH
                        Base stroke width.
"

/-- The program and its commands. -/
def overview : String :=
"Render built-in L-system plants to SVG.

positional arguments:
  \x7blist,render,validate,random\x7d
    list                List the built-in grammars.
    render              Render a grammar to an SVG file.
    validate            Expand and interpret a grammar and print statistics.
    random              Render a randomly chosen grammar.

options:
  -h, --help            show this help message and exit
"

/-- The grammars, the settings and the options, at length. -/
def epilog : String :=
"GRAMMARS

  Grammars are built in; run `list` to see them. Symbols:

    F G   move forward and draw
    f g   move forward without drawing
    +     turn left by the grammar's angle
    -     turn right by the grammar's angle
    [     save the turtle; the branch is one level deeper and its step
          length is multiplied by the scale factor
    ]     restore the last saved turtle
    other symbols (X, ...) are rewritten but never drawn

RENDER SETTINGS

  --preset selects step length, scale and stroke width:
    default   step 10, scale 1.0,  stroke 1.0
    tapered   step 10, scale 0.7,  stroke 2.0
    fine      step 4,  scale 0.85, stroke 0.5
  --step, --scale and --stroke-width override the preset.

SVG OPTIONS (--options FILE)

  A JSON object; every key is optional.

    margin: number >= 0 (default 10)
    precision: integer 0..10 (default 3)
    flip_y: boolean (default true)
        Wrap the drawing in a y-flip so turtle math stays Cartesian.
    rotate: degrees (default 90)
        Rotate the drawing counter-clockwise; 90 makes plants grow upward.
    width / height: number (optional)
    background: color (optional)
    depth_fade: number in (0, 1] (default 1)
        Stroke width multiplier applied once per branch depth.
    style: \x7b\"stroke\", \"stroke_linecap\", \"stroke_linejoin\"\x7d

Example

    \x7b\"margin\": 5, \"depth_fade\": 0.7, \"background\": \"#fff\",
     \"style\": \x7b\"stroke\": \"#553311\"\x7d\x7d
"

/-- What is said of the arguments below the usage. -/
def details : Option CommandName → String
  | none => overview ++ "\n" ++ epilog
  | some .list => "options:\n  -h, --help  show this help message and exit\n"
  | some .render =>
    "positional arguments:\n" ++
      "  grammar               Grammar name (see `list`).\n" ++
      "  output                Path to write the SVG output.\n\n" ++
      "options:\n" ++ settingsOptions ++
      "  --options OPTIONS     JSON file with SVG options.\n"
  | some .validate =>
    "positional arguments:\n" ++
      "  grammar               Grammar name (see `list`).\n\n" ++
      "options:\n" ++ settingsOptions
  | some .random =>
    "positional arguments:\n" ++
      "  output             Path to write the SVG output.\n\n" ++
      "options:\n" ++
      "  -h, --help         show this help message and exit\n" ++
      "  --seed SEED        Seed for repeatable randomness.\n" ++
      "  --options OPTIONS  JSON file with SVG options.\n"

/-- The text shown on request. -/
def text (command : Option CommandName) : String :=
  usage command ++ "\n\n" ++ details command

end PlantDrawing.HelpText
