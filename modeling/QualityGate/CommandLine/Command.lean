import QualityGate.CommandLine.Flag
import QualityGate.Checking.LineLength
import QualityGate.Detection.Detector
import QualityGate.Reporting.Format

/-!
The commands of the program, their flags and what is said about them.
-/

namespace QualityGate.CommandLine

inductive ScriptShell where
  | bash
  | zsh
  | fish
  | powershell
  deriving DecidableEq, Repr

inductive Command where
  | root
  | version
  | language
  | methods
  | lines
  | test
  | help
  | completion
  | script (shell : ScriptShell)
  deriving DecidableEq, Repr

inductive Arity where
  | any
  | none
  | atMost (n : Nat)
  deriving DecidableEq, Repr

def ScriptShell.name : ScriptShell → Text
  | bash => "bash"
  | zsh => "zsh"
  | fish => "fish"
  | powershell => "powershell"

def ScriptShell.description : ScriptShell → Text
  | bash => Text.join "\n"
    ["Generate the autocompletion script for the bash shell.", "",
      "This script depends on the 'bash-completion' package.",
      "If it is not installed already, you can install it via your OS's package manager.", "",
      "To load completions in your current shell session:", "",
      "\tsource <(codegate completion bash)", "",
      "To load completions for every new session, execute once:", "",
      "#### Linux:", "",
      "\tcodegate completion bash > /etc/bash_completion.d/codegate", "",
      "#### macOS:", "",
      "\tcodegate completion bash > $(brew --prefix)/etc/bash_completion.d/codegate", "",
      "You will need to start a new shell for this setup to take effect."]
  | zsh => Text.join "\n"
    ["Generate the autocompletion script for the zsh shell.", "",
      "If shell completion is not already enabled in your environment you will need",
      "to enable it.  You can execute the following once:", "",
      "\techo \"autoload -U compinit; compinit\" >> ~/.zshrc", "",
      "To load completions in your current shell session:", "",
      "\tsource <(codegate completion zsh)", "",
      "To load completions for every new session, execute once:", "",
      "#### Linux:", "",
      "\tcodegate completion zsh > \"$\x7bfpath[1]\x7d/_codegate\"", "",
      "#### macOS:", "",
      "\tcodegate completion zsh > $(brew --prefix)/share/zsh/site-functions/_codegate", "",
      "You will need to start a new shell for this setup to take effect."]
  | fish => Text.join "\n"
    ["Generate the autocompletion script for the fish shell.", "",
      "To load completions in your current shell session:", "",
      "\tcodegate completion fish | source", "",
      "To load completions for every new session, execute once:", "",
      "\tcodegate completion fish > ~/.config/fish/completions/codegate.fish", "",
      "You will need to start a new shell for this setup to take effect."]
  | powershell => Text.join "\n"
    ["Generate the autocompletion script for powershell.", "",
      "To load completions in your current shell session:", "",
      "\tcodegate completion powershell | Out-String | Invoke-Expression", "",
      "To load completions for every new session, add the output of the above command",
      "to your powershell profile."]

/-! ### Flags -/

def globalFlags : List Flag :=
  [{ name := "log-level", value := .word "warning", usage := "日志级别: debug, info, warn, error" },
    { name := "color", value := .word ColorMode.auto.name, usage := "汇总行配色: auto, always, never" }]

def scanFlags : List Flag :=
  [{ name := "format", value := .word Format.text.name, usage := "输出格式: text, table, json, yaml" },
    { name := "output", value := .word [], usage := "json/yaml 结果导出路径" },
    { name := "workers", value := .number 1, usage := "并发 worker 数量，1 表示顺序执行" },
    { name := "fail-on-violation", value := .switch false, usage := "发现违规时以非 0 状态退出" },
    { name := "exclude-dir", value := .words [], usage := "额外排除的目录名，可重复指定" }]

namespace Command

def name : Command → Text
  | root => "codegate"
  | version => "version"
  | language => "language"
  | methods => "methods"
  | lines => "lines"
  | test => "test"
  | help => "help"
  | completion => "completion"
  | script shell => shell.name

/-- The flags of one command only, less the one for help. -/
def ownFlags : Command → List Flag
  | methods => scanFlags ++
    [{ name := "threshold", value := .number defaultThreshold, usage := "方法体允许的最大行数" },
      { name := "lang", value := .words ["csharp"], usage := "参与检查的语言，运行 codegate language 查看列表" },
      { name := "attribution", value := .word Attribution.sequential.name,
        usage := "类型归属策略: sequential 或 nesting" },
      { name := "mask-literals", value := .switch false, usage := "匹配括号前先遮蔽注释与字符串字面量" }]
  | lines => scanFlags ++
    [{ name := "max-length", value := .number LineLength.defaultMaximum, usage := "单行允许的最大字符数" },
      { name := "exclude-file", value := .words [], usage := "额外排除的文件名或后缀（如 .md），可重复指定" }]
  | test => [{ name := "fail-on-error", value := .switch false, usage := "测试命令失败时以非 0 状态退出" }]
  | script _ => [{ name := "no-descriptions", value := .switch false, usage := "disable completion descriptions" }]
  | _ => []

def helpFlag (command : Command) : Flag :=
  { name := "help", letter := some (Text.byte 'h'), value := .switch false, usage := "help for " ++ command.name }

def flags (command : Command) : List Flag := command.ownFlags ++ globalFlags

def synopsis : Command → Text
  | methods => " [path]"
  | lines => " [path]"
  | test => " [-- command args...]"
  | help => " [command]"
  | _ => ""

def summary : Command → Text
  | root => "超长方法与超长行检查工具"
  | version => "显示当前版本号"
  | language => "展示已实现语言及后缀"
  | methods => "查找方法体行数超过阈值的方法"
  | lines => "查找字符数超过上限的代码行"
  | test => "运行测试命令，只报告成功或失败以及退出码"
  | help => "Help about any command"
  | completion => "Generate the autocompletion script for the specified shell"
  | script shell => "Generate the autocompletion script for " ++ shell.name

def description : Command → Text
  | root => Text.join "\n"
    ["codegate 是一个面向 pre-commit 与 CI 的代码质量门禁，",
      "检查超过行数阈值的方法体和超过字符数上限的代码行，并可包装外部测试命令。"]
  | help => Text.join "\n"
    ["Help provides help for any command in the application.",
      "Simply type codegate help [path to command] for full details."]
  | completion => Text.join "\n"
    ["Generate the autocompletion script for codegate for the specified shell.",
      "See each sub-command's help for details on how to use the generated script."]
  | script shell => shell.description
  | command => command.summary

def children : Command → List Command
  | root => [version, language, methods, lines, test, help, completion]
  | completion => [script .bash, script .zsh, script .fish, script .powershell]
  | _ => []

def path : Command → Text
  | root => root.name
  | script shell => "codegate completion " ++ shell.name
  | command => "codegate " ++ command.name

def isRunnable : Command → Bool
  | root => false
  | completion => false
  | _ => true

def arity : Command → Arity
  | language => .none
  | methods => .atMost 1
  | lines => .atMost 1
  | completion => .none
  | script _ => .none
  | _ => .any

end Command

end QualityGate.CommandLine
