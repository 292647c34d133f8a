/-!
What the command says about itself.
-/

namespace ActorDiagram.Command

def helpLines : List String :=
  ["usage: fsmviz [-h] [--out OUT] [--format \x7bauto,mmd,md\x7d] [--config CONFIG]",
    "              [--direction \x7bTB,LR,BT,RL\x7d] [--theme THEME] [--title TITLE]",
    "              [--strict]",
    "              [source]",
    "",
    "Generate a Mermaid state diagram from Akka FSM (Scala) source.",
    "",
    "positional arguments:",
    "  source                Scala source file to analyze (default: read stdin).",
    "",
    "options:",
    "  -h, --help            show this help message and exit",
    "  --out OUT             Output file (default: write the diagram to stdout).",
    "  --format \x7bauto,mmd,md\x7d",
    "                        Output format: raw Mermaid (mmd) or Markdown with a",
    "                        mermaid fence (md). auto picks md for .md outputs.",
    "  --config CONFIG       YAML config file (keys: direction, theme, title,",
    "                        strict, ignore, escalate).",
    "  --direction \x7bTB,LR,BT,RL\x7d",
    "                        Diagram direction (overrides config).",
    "  --theme THEME         Mermaid theme written as an init directive (overrides",
    "                        config).",
    "  --title TITLE         Title used for Markdown output (overrides config).",
    "  --strict              Fail on analysis warnings (e.g., unknown states,",
    "                        unresolved helpers). Errors always fail."]

def helpText : String := String.join (helpLines.map (· ++ "\n"))

end ActorDiagram.Command
