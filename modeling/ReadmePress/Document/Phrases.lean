import ReadmePress.Facts.Language

/-!
The words of the document in each language: section titles, and what stands in a section that
has no facts.
-/

namespace ReadmePress

/-- The sections of the full document, in its order. -/
inductive DocumentSection where
  | intro
  | features
  | quickstart
  | scripts
  | listing
  | api
  | environment
  | stack
  | license
  deriving DecidableEq, Repr

namespace DocumentSection

/-- Every section in the order of the document. -/
def all : List DocumentSection :=
  [.intro, .features, .quickstart, .scripts, .listing, .api, .environment, .stack, .license]

/-- The heading of a section. -/
def title : Language → DocumentSection → String
  | .chinese, .intro => "简介"
  | .chinese, .features => "特性"
  | .chinese, .quickstart => "快速开始"
  | .chinese, .scripts => "运行脚本"
  | .chinese, .listing => "项目结构"
  | .chinese, .api => "API 端点"
  | .chinese, .environment => "环境变量"
  | .chinese, .stack => "技术栈"
  | .chinese, .license => "许可"
  | .english, .intro => "Introduction"
  | .english, .features => "Features"
  | .english, .quickstart => "Quick Start"
  | .english, .scripts => "Scripts"
  | .english, .listing => "Project Structure"
  | .english, .api => "API Endpoints"
  | .english, .environment => "Environment Variables"
  | .english, .stack => "Tech Stack"
  | .english, .license => "License"

/-- The headings of all sections. -/
def titles (language : Language) : List String := all.map (title language)

end DocumentSection

/-- What stands in for facts that are missing. -/
structure Placeholders where
  description : String
  intro : String
  features : List String
  scripts : String
  routes : String
  environment : String
  environmentValue : String
  stack : String
  license : String

namespace Language

def placeholders : Language → Placeholders
  | .chinese =>
      { description := "（在此填写项目简介）"
        intro := "本项目提供一个 Node.js/Express 示例，集成常见中间件与实践。"
        features := ["简洁易用", "可扩展的工具系统", "默认只读，手动确认才写入"]
        scripts := "(无脚本)"
        routes := "(未检测到路由定义；或许位于其它文件/框架抽象中)"
        environment := "(未检测到环境变量；如使用 MongoDB/JWT，请在 .env 中配置)"
        environmentValue := "(请填写你的值)"
        stack := "(未检测到依赖)"
        license := "(未指定；如需开源，建议补充 LICENSE 文件。)" }
  | .english =>
      { description := "(Add a short project description here)"
        intro :=
          "This project is a Node.js/Express example wired up with common middleware "
            ++ "and practices."
        features :=
          ["Simple and easy to use", "Extensible tool system",
            "Read-only by default; writes only after explicit confirmation"]
        scripts := "(no scripts)"
        routes :=
          "(No route definitions detected; they may live in other files or framework "
            ++ "abstractions)"
        environment :=
          "(No environment variables detected; configure MongoDB/JWT settings in .env "
            ++ "if used)"
        environmentValue := "(fill in your value)"
        stack := "(no dependencies detected)"
        license :=
          "(Not specified; add a LICENSE file if you plan to open-source the project.)" }

/-- How the project is started. -/
def quickstart : Language → String
  | .chinese =>
      "# 1) 安装依赖\nnpm i\n\n# 2) 本地运行\nnpm start\n\n# 3) 默认访问\n"
        ++ "http://localhost:3000"
  | .english =>
      "# 1) Install dependencies\nnpm i\n\n# 2) Run locally\nnpm start\n\n"
        ++ "# 3) Open in a browser\nhttp://localhost:3000"

/-- The heading of the table of contents, for the languages whose document has one. -/
def tocTitle? : Language → Option String
  | .chinese => some "目录"
  | .english => none

end Language

/-- The heading of the features in the short document. -/
def shortFeaturesTitle : String := "特性"

/-- The feature of the short document when none is given. -/
def shortDefaultFeature : String := "简洁易用"

end ReadmePress
