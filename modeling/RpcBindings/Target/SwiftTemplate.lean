import RpcBindings.Text.Newline

/-! The template of a Swift file: for every service a client, a handler protocol and a router, over
message types of another generator. -/
namespace RpcBindings.Target

def swiftTemplate : String := Text.ofLines [
  "\x7b% if add_comments %\x7d",
  "// Code generated by \x7b\x7b generator \x7d\x7d. DO NOT EDIT.",
  "// source: \x7b\x7b file.file_name \x7d\x7d",
  "",
  "\x7b% endif %\x7d",
  "import Foundation",
  "import SwiftProtobuf",
  "\x7b% for service in file.services %\x7d",
  "",
  "enum \x7b\x7b service.name \x7d\x7d \x7b",
  "\x7b% for method in service.methods %\x7d",
  "\x7b% if not loop.first %\x7d",
  "",
  "\x7b% endif %\x7d",
  "\x7b% if method.server_streaming %\x7d",
  "    static func \x7b\x7b method.method_name \x7d\x7d(_ request: \x7b\x7b method.input \x7d\x7d) -> AsyncThrowingStream<\x7b\x7b method.output \x7d\x7d, Error> \x7b",
  "        AsyncThrowingStream \x7b continuation in",
  "            let payload: Data",
  "            do \x7b",
  "                payload = try request.serializedData()",
  "            \x7d catch \x7b",
  "                continuation.finish(throwing: error)",
  "                return",
  "            \x7d",
  "            Kalam.shared.stream(\"\x7b\x7b service.route(method) \x7d\x7d\", payload, onChunk: \x7b data in",
  "                do \x7b",
  "                    continuation.yield(try \x7b\x7b method.output \x7d\x7d(serializedData: data))",
  "                \x7d catch \x7b",
  "                    continuation.finish(throwing: error)",
  "                \x7d",
  "            \x7d, onEnd: \x7b error in",
  "                continuation.finish(throwing: error)",
  "            \x7d)",
  "        \x7d",
  "    \x7d",
  "\x7b% else %\x7d",
  "    static func \x7b\x7b method.method_name \x7d\x7d(_ request: \x7b\x7b method.input \x7d\x7d) async throws -> \x7b\x7b method.output \x7d\x7d \x7b",
  "        let payload = try request.serializedData()",
  "        let data: Data = try await withCheckedThrowingContinuation \x7b continuation in",
  "            Kalam.shared.call(\"\x7b\x7b service.route(method) \x7d\x7d\", payload) \x7b result in",
  "                continuation.resume(with: result)",
  "            \x7d",
  "        \x7d",
  "        return try \x7b\x7b method.output \x7d\x7d(serializedData: data)",
  "    \x7d",
  "\x7b% endif %\x7d",
  "\x7b% endfor %\x7d",
  "\x7d",
  "",
  "protocol \x7b\x7b service.name \x7d\x7dHandler \x7b",
  "\x7b% for method in service.methods %\x7d",
  "\x7b% if method.server_streaming %\x7d",
  "    func \x7b\x7b method.method_name \x7d\x7d(_ request: \x7b\x7b method.input \x7d\x7d, onChunk: @escaping (\x7b\x7b method.output \x7d\x7d) -> Void, onEnd: @escaping () -> Void)",
  "\x7b% else %\x7d",
  "    func \x7b\x7b method.method_name \x7d\x7d(_ request: \x7b\x7b method.input \x7d\x7d, completion: @escaping (Result<\x7b\x7b method.output \x7d\x7d, Error>) -> Void)",
  "\x7b% endif %\x7d",
  "\x7b% endfor %\x7d",
  "\x7d",
  "",
  "final class \x7b\x7b service.name \x7d\x7dRouter: ServiceRouter \x7b",
  "    private let handler: \x7b\x7b service.name \x7d\x7dHandler",
  "",
  "    init(_ handler: \x7b\x7b service.name \x7d\x7dHandler) \x7b",
  "        self.handler = handler",
  "    \x7d",
  "",
  "    func handle(method: String, payload: Data, sink: ResponseSink) \x7b",
  "        switch method \x7b",
  "\x7b% for method in service.methods %\x7d",
  "        case \"\x7b\x7b service.route(method) \x7d\x7d\":",
  "            let request: \x7b\x7b method.input \x7d\x7d",
  "            do \x7b",
  "                request = try \x7b\x7b method.input \x7d\x7d(serializedData: payload)",
  "            \x7d catch \x7b",
  "                sink.sendError(\"\\(error)\")",
  "                return",
  "            \x7d",
  "\x7b% if method.server_streaming %\x7d",
  "            handler.\x7b\x7b method.method_name \x7d\x7d(request, onChunk: \x7b response in",
  "                do \x7b",
  "                    sink.sendChunk(try response.serializedData())",
  "                \x7d catch \x7b",
  "                    sink.sendError(\"\\(error)\")",
  "                \x7d",
  "            \x7d, onEnd: \x7b",
  "                sink.sendEnd()",
  "            \x7d)",
  "\x7b% else %\x7d",
  "            handler.\x7b\x7b method.method_name \x7d\x7d(request) \x7b result in",
  "                switch result \x7b",
  "                case .success(let response):",
  "                    do \x7b",
  "                        sink.sendUnary(try response.serializedData())",
  "                    \x7d catch \x7b",
  "                        sink.sendError(\"\\(error)\")",
  "                    \x7d",
  "                case .failure(let error):",
  "                    sink.sendError(\"\\(error)\")",
  "                \x7d",
  "            \x7d",
  "\x7b% endif %\x7d",
  "\x7b% endfor %\x7d",
  "        default:",
  "            sink.sendError(\"Unknown method: \\(method)\")",
  "        \x7d",
  "    \x7d",
  "\x7d",
  "\x7b% endfor %\x7d"]

end RpcBindings.Target
