import AsmBridge.CommandLine.Option
import AsmBridge.Text.Lines

/-!
# Usage text
-/

namespace AsmBridge

/-- The name of the program. -/
def programName : Text :=
  "goasmify".toList

/-- How the program is called. -/
def usageText : Text :=
  Text.unlines <| [
    "usage: goasmify [-h] [-o OUTPUT] [--stub STUB] [--args NAME=COUNT]",
    "                [--table-name TABLE_NAME] [--encode] [-v] [--version]",
    "                source"].map String.toList

/-- What the program and its options do. -/
def helpText : Text :=
  usageText ++ (Text.unlines <| [
    "",
    "Translate clang x86-64 assembly into Go assembler",
    "",
    "positional arguments:",
    "  source                clang assembly listing (Intel syntax)",
    "",
    "options:",
    "  -h, --help            show this help message and exit",
    "  -o OUTPUT, --output OUTPUT",
    "                        Output Go assembly file (default: source with _amd64.s",
    "                        suffix)",
    "  --stub STUB           Go file declaring the functions, for their argument",
    "                        counts",
    "  --args NAME=COUNT     Argument count of a function (overrides --stub)",
    "  --table-name TABLE_NAME",
    "                        Symbol for the constant table (default: LCDATA1)",
    "  --encode              Assemble unsupported instructions into data directives",
    "                        (needs keystone-engine)",
    "  -v, --verbose         Verbose output",
    "  --version             show program\x27s version number and exit",
    "",
    "Examples:",
    "    goasmify sum_float.s -o sum_float_amd64.s --stub sum_float_amd64.go",
    "    goasmify sum_float.s --args sum_float=3",
    "    goasmify sum_float.s --stub sum_float_amd64.go --encode"].map String.toList)

/-- The version of the program. -/
def versionText : Text :=
  programName ++ " 0.1.0\n".toList

/-- What a usage error prints. -/
def UsageError.text (e : UsageError) : Text :=
  usageText ++ programName ++ ": error: ".toList ++ e.message ++ "\n".toList

end AsmBridge
