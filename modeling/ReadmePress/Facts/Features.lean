import ReadmePress.Facts.Language

/-!
Features that can be told from the packages a project depends on, and lists of features without
repetition.
-/

namespace ReadmePress

/-- A feature: any of its packages shows it. -/
structure KnownFeature where
  packages : List String
  chinese : String
  english : String

namespace KnownFeature

/-- What a feature is called. -/
def phrase (feature : KnownFeature) : Language → String
  | .chinese => feature.chinese
  | .english => feature.english

end KnownFeature

/-- The features that are known, in the order in which they are listed. -/
def knownFeatures : List KnownFeature :=
  [{ packages := ["express"]
     chinese := "基于 Express 的 Web 服务"
     english := "Express-based web service" },
    { packages := ["mongoose"]
      chinese := "使用 Mongoose 访问 MongoDB"
      english := "MongoDB access via Mongoose" },
    { packages := ["jsonwebtoken"]
      chinese := "JWT 鉴权"
      english := "JWT auth" },
    { packages := ["bcrypt"]
      chinese := "密码哈希（bcrypt）"
      english := "Password hashing (bcrypt)" },
    { packages := ["morgan"]
      chinese := "HTTP 请求日志（morgan）"
      english := "HTTP request logging (morgan)" },
    { packages := ["cookie-parser"]
      chinese := "Cookie 解析"
      english := "Cookie parsing" },
    { packages := ["body-parser"]
      chinese := "请求体解析（body-parser）"
      english := "Request body parsing (body-parser)" },
    { packages := ["jade", "pug"]
      chinese := "模板引擎 (Jade/Pug)"
      english := "Template engine (Jade/Pug)" }]

/-- The phrases of the features that the packages show. -/
def detectFeatures (packages : List String) (language : Language) : List String :=
  (knownFeatures.filter fun feature => feature.packages.any packages.contains).map
    (·.phrase language)

variable {Item : Type} [DecidableEq Item]

/-- The texts that are not among those already seen, each where it first appears. -/
def distinctAfter (seen : List Item) : List Item → List Item
  | [] => []
  | text :: rest =>
      if seen.contains text then distinctAfter seen rest
      else text :: distinctAfter (text :: seen) rest

/-- Two lists one after the other, each text where it first appears. -/
def mergeFeatures (detected extra : List Item) : List Item :=
  distinctAfter [] (detected ++ extra)

end ReadmePress
