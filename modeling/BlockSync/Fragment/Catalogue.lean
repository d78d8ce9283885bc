import BlockSync.Fragment.Basic

namespace BlockSync

/-!
# The shipped fragments

The wiring of the Google Maps SDK into native projects: a pod, an import and an initialiser call
for applications on iOS, in Swift and in Objective-C, and a dependency and a key for Android.
-/

namespace Catalogue

open Regex

/-- Characters that match themselves, one after another. -/
def word (text : String) : Node := .ofText text.toList

/-- The class of blank characters. -/
def blank : Node := .char (.set .exact false [.category ⟨.blank, false, false⟩])

/-- Any number of blank characters. -/
def blanks : Node := .loop .greedy 0 none blank

/-- At most one blank character. -/
def optionalBlank : Node := .loop .greedy 0 (some 1) blank

/-- One or more word characters. -/
def wordChars : Node :=
  .loop .greedy 1 none (.char (.set .exact false [.category ⟨.word, false, false⟩]))

/-- The opening of a dependency section at the start of a line. -/
def dependenciesOpening : Pattern :=
  ⟨.ofList [.place .textStart, blanks, word "dependencies", blanks, word "\x7b"], 0⟩

/-- The end of the application element at the start of a line. -/
def applicationEnd : Pattern :=
  ⟨.ofList [.place .textStart, blanks, word "</application>"], 0⟩

/-- The call of the superclass at the end of the start-up of a Swift application. -/
def swiftStartUp : Pattern :=
  .literal
    "return super.application(application, didFinishLaunchingWithOptions: launchOptions)".toList

/-- The creation of the bridge, or the call of the superclass, in an Objective-C application. -/
def objcStartUp : Pattern :=
  ⟨.alt
    (.ofList [word "RCTBridge", optionalBlank, word "*", optionalBlank, wordChars, optionalBlank,
      word "=", optionalBlank, word "[",
      .alt (word "[RCTBridge alloc]") (word "self.reactDelegate")])
    (word "return [super application:application didFinishLaunchingWithOptions:launchOptions]"),
    0⟩

/-- The attribute that marks the entry point of a Swift application. -/
def swiftEntryPoint : Pattern :=
  ⟨.ofList [.place .textStart, blanks, word "@", .alt (word "UIApplicationMain") (word "main"),
    .place (.wordBoundary false)], 0⟩

/-- A comment from two slashes to the end of its line. -/
def slashes : CommentStyle := ⟨"//", ""⟩

/-- The name of the value that holds the key of the service. -/
def apiKey : String := "api_key"

/-- Where the key of the service stands in the configuration of an application on iOS. -/
def iosKeyPath : String := "ios.config.googleMapsApiKey"

/-- Where the key of the service stands in the configuration of an application on Android. -/
def androidKeyPath : String := "android.config.googleMaps.apiKey"

/-- The version of the maps library that is used unless another one is given. -/
def mapsVersion : String := "18.2.0"

/-- The dependency on the maps library in the module of an Android application. -/
def gradle : Fragment where
  kind := "GoogleMapsGradleFragment"
  name := "google-maps-gradle"
  description := "app/build.gradle: play-services-maps dependency"
  tag := "react-native-maps-gradle"
  anchor := ⟨dependenciesOpening, .after, "dependencies \x7b"⟩
  style := slashes
  required := []
  defaults := [("version", mapsVersion)]
  valueKeys := []
  payload := some (.parse
    "    implementation 'com.google.android.gms:play-services-maps:$\x7bversion\x7d'")

/-- The element with the key of the service in the manifest of an Android application. -/
def manifestKey : Fragment where
  kind := "GoogleMapsManifestKeyFragment"
  name := "google-maps-manifest-key"
  description := "AndroidManifest.xml: com.google.android.geo.API_KEY meta-data"
  tag := "react-native-maps-api-key"
  anchor := ⟨applicationEnd, .before, "</application>"⟩
  style := ⟨"<!--", "-->"⟩
  required := [apiKey]
  defaults := []
  valueKeys := [(apiKey, androidKeyPath)]
  payload := some (.parse <|
    "    <meta-data android:name=\"com.google.android.geo.API_KEY\" " ++
      "android:value=\"$\x7bapi_key\x7d\"/>")

/-- The pod ahead of the call that collects the native modules. -/
def cocoaPods : Fragment where
  kind := "GoogleMapsCocoaPodsFragment"
  name := "google-maps-cocoapods"
  description := "Podfile: react-native-google-maps pod"
  tag := "react-native-maps"
  anchor := ⟨.literal "use_native_modules".toList, .before, "use_native_modules"⟩
  style := .default
  required := []
  defaults := []
  valueKeys := []
  payload := some (.ofText <|
    "  pod 'react-native-google-maps', path: File.dirname(" ++
      "\x60node --print \"require.resolve('react-native-maps/package.json')\"\x60)")

/-- The import above the entry point of a Swift application. -/
def swiftImport : Fragment where
  kind := "GoogleMapsSwiftImportFragment"
  name := "google-maps-swift-import"
  description := "AppDelegate.swift: import GoogleMaps"
  tag := "react-native-maps-import"
  anchor := ⟨swiftEntryPoint, .before, "@UIApplicationMain / @main"⟩
  style := slashes
  required := []
  defaults := []
  valueKeys := []
  payload := some (.ofText "#if canImport(GoogleMaps)\nimport GoogleMaps\n#endif")

/-- The initialiser call ahead of the end of the start-up of a Swift application. -/
def swiftInit : Fragment where
  kind := "GoogleMapsSwiftInitFragment"
  name := "google-maps-swift-init"
  description := "AppDelegate.swift: GMSServices.provideAPIKey(...)"
  tag := "react-native-maps-init"
  anchor := ⟨swiftStartUp, .before, "super.application(...) call"⟩
  style := slashes
  required := [apiKey]
  defaults := []
  valueKeys := [(apiKey, iosKeyPath)]
  payload := some (.parse
    "#if canImport(GoogleMaps)\nGMSServices.provideAPIKey(\"$\x7bapi_key\x7d\")\n#endif")

/-- The import below the header of an Objective-C application. -/
def objcImport : Fragment where
  kind := "GoogleMapsObjcImportFragment"
  name := "google-maps-objc-import"
  description := "AppDelegate.mm: #import <GoogleMaps/GoogleMaps.h>"
  tag := "react-native-maps-import"
  anchor := .literal "#import \"AppDelegate.h\"" .after ""
  style := slashes
  required := []
  defaults := []
  valueKeys := []
  payload := some (.ofText
    "#if __has_include(<GoogleMaps/GoogleMaps.h>)\n#import <GoogleMaps/GoogleMaps.h>\n#endif")

/-- The initialiser call ahead of the bridge of an Objective-C application. -/
def objcInit : Fragment where
  kind := "GoogleMapsObjcInitFragment"
  name := "google-maps-objc-init"
  description := "AppDelegate.mm: [GMSServices provideAPIKey:...]"
  tag := "react-native-maps-init"
  anchor := ⟨objcStartUp, .before, "bridge creation / [super application:...]"⟩
  style := slashes
  required := [apiKey]
  defaults := []
  valueKeys := [(apiKey, iosKeyPath)]
  payload := some (.parse <|
    "#if __has_include(<GoogleMaps/GoogleMaps.h>)\n" ++
      "[GMSServices provideAPIKey:@\"$\x7bapi_key\x7d\"];\n#endif")

/-- All shipped fragments. -/
def fragments : List Fragment :=
  [gradle, manifestKey, cocoaPods, swiftImport, swiftInit, objcImport, objcInit]

end Catalogue

end BlockSync
