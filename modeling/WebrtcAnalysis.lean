import WebrtcAnalysis.Unicode
import WebrtcAnalysis.Builtins
import WebrtcAnalysis.Regex
import WebrtcAnalysis.PyFloat
import WebrtcAnalysis.Rounding
import WebrtcAnalysis.Dict
import WebrtcAnalysis.Gcc.Patterns
import WebrtcAnalysis.Gcc.Parse
import WebrtcAnalysis.Gcc.Run
import WebrtcAnalysis.Gcc.Dispatch
import WebrtcAnalysis.Gcc.Candidates
import WebrtcAnalysis.Gcc.Resolver
import WebrtcAnalysis.Gcc.Split
import WebrtcAnalysis.Gcc.Failures
import WebrtcAnalysis.Gcc.Plot
import WebrtcAnalysis.Cpu.Report
import WebrtcAnalysis.Cpu.Ranking
import WebrtcAnalysis.Cpu.Categories
import WebrtcAnalysis.Cpu.Summary
import WebrtcAnalysis.Flame.Parse
import WebrtcAnalysis.Flame.Report
import WebrtcAnalysis.Flame.Interactive
import WebrtcAnalysis.Flame.Stacks
import WebrtcAnalysis.Flame.Session
import WebrtcAnalysis.Flame.Stamps
